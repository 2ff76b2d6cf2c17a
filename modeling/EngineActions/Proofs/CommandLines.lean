import EngineActions.CommandLine.Response
import EngineActions.Shipped
import Mathlib.Data.List.Forall2
import Mathlib.Data.List.Perm.Basic

namespace EngineActions

theorem isPlain_iff {text : String} :
    isPlain text = true ↔ ∀ first rest, text.toList ≠ '-' :: first :: rest := by
  unfold isPlain
  split
  · rename_i first rest same
    exact ⟨(fun hyphen => nomatch hyphen), fun other => absurd same (other first rest)⟩
  · exact ⟨fun _ => ‹_›, fun _ => rfl⟩

namespace Word
variable {option : Setting} {chars : List Char} {text : String}

theorem ofText_of_isPlain (plain : isPlain text = true) : ofText text = .operand text := by
  have other := isPlain_iff.mp plain
  unfold ofText ofChars
  split
  · exact absurd ‹_› (other _ _)
  · exact absurd ‹_› (other _ _)
  · rename_i hyphen
    exact congrArg operand (String.toList_injective hyphen.symm)
  · exact absurd ‹_› (other _ _)
  · rw [String.ofList_toList]

theorem ofText_letter : ofText (String.ofList ['-', option.letter]) = .settingAlone option := by
  rw [ofText, String.toList_ofList]
  cases option <;> rfl

theorem ofText_name :
    ofText (String.ofList ('-' :: '-' :: option.longName)) = .settingAlone option := by
  rw [ofText, String.toList_ofList]
  cases option <;> rfl

theorem ofChars_letterEquals :
    ofChars ('-' :: option.letter :: '=' :: chars) = .setting option (String.ofList chars) := by
  cases option <;> rfl

theorem ofChars_nameEquals : ofChars ('-' :: '-' :: (option.longName ++ '=' :: chars)) =
    .setting option (String.ofList chars) := by
  cases option <;> rfl

theorem ofChars_letterJoined (given : chars ≠ []) (first : chars.head? ≠ some '=') :
    ofChars ('-' :: option.letter :: chars) = .setting option (String.ofList chars) := by
  have short : ofChars ('-' :: option.letter :: chars) = ofShort option.letter chars := by
    cases option <;> rfl
  rw [short, ofShort]
  · cases option <;> rfl
  · exact given
  · rintro value rfl
    exact first rfl

end Word

namespace Spelling
variable {spelling : Spelling} {option : Setting} {text : String}

theorem carries_of_first {first : Char} {chars : List Char} (begun : text.toList = first :: chars)
    (noHyphen : first ≠ '-') (noEquals : first ≠ '=') (spelling : Spelling) :
    spelling.Carries text := by
  have plain : isPlain text = true := by
    refine isPlain_iff.mpr fun second rest same => noHyphen ?_
    exact (List.cons.inj (begun.symm.trans same)).1
  have joined : text ≠ "" ∧ text.toList.head? ≠ some '=' := by
    constructor
    · rintro rfl
      cases begun
    · rw [begun]
      exact fun same => noEquals (Option.some.inj same)
  cases spelling with
  | letterApart | nameApart => exact plain
  | letterJoined => exact joined
  | letterEquals | nameEquals => trivial

theorem ofTexts?_words (carried : spelling.Carries text) (rest : List String) :
    Item.ofTexts? (spelling.words option text ++ rest) =
      (Item.ofTexts? rest).map (.setting option text :: ·) := by
  cases spelling with
  | letterApart => exact Item.ofTexts?_settingAlone Word.ofText_letter carried
  | letterJoined =>
    obtain ⟨given, first⟩ := carried
    apply Item.ofTexts?_setting
    rw [Word.ofText, String.toList_append, String.toList_ofList]
    refine (Word.ofChars_letterJoined ?_ first).trans (congrArg _ String.ofList_toList)
    exact fun none => given (String.toList_injective none)
  | letterEquals =>
    apply Item.ofTexts?_setting
    rw [Word.ofText, String.toList_append, String.toList_append, String.toList_ofList]
    exact Word.ofChars_letterEquals.trans (congrArg _ String.ofList_toList)
  | nameApart => exact Item.ofTexts?_settingAlone Word.ofText_name carried
  | nameEquals =>
    apply Item.ofTexts?_setting
    rw [Word.ofText, String.toList_append, String.toList_append, String.toList_ofList,
      List.append_assoc]
    exact Word.ofChars_nameEquals.trans (congrArg _ String.ofList_toList)

end Spelling

namespace Item
variable {items : List Item} {words : List String}

theorem Spelled.ofTexts?_eq (spelled : Spelled items words) : ofTexts? words = some items := by
  induction spelled with
  | none => rfl
  | operand text plain _ ih =>
    rw [ofTexts?_operand (Word.ofText_of_isPlain plain), ih]
    rfl
  | json _ ih =>
    rw [ofTexts?_json (by decide), ih]
    rfl
  | setting spelling option text carried _ ih =>
    rw [Spelling.ofTexts?_words carried, ih]
    rfl
  | operandsOnly texts => exact ofTexts?_operandsOnly (by decide)

theorem findSome?_of_once {look : Item → Option String} {item : Item} {text : String}
    (once : (items.map argument).Nodup) (given : item ∈ items) (found : look item = some text)
    (only : ∀ other, look other ≠ none → other.argument = item.argument) :
    items.findSome? look = some text := by
  induction items with
  | nil => cases given
  | cons first rest ih =>
    obtain ⟨fresh, once⟩ := List.nodup_cons.mp once
    rw [List.findSome?_cons]
    rcases List.mem_cons.mp given with rfl | later
    · rw [found]
    · have skipped : look first = none := by
        by_contra other
        exact fresh (only first other ▸ List.mem_map_of_mem later)
      rw [skipped]
      exact ih once later

theorem argument_of_operand? {item : Item} (found : item.operand? ≠ none) :
    item.argument = .operand := by
  cases item with
  | operand => rfl
  | json | setting => exact absurd rfl found

theorem argument_of_setting? {item : Item} {option : Setting}
    (found : item.setting? option ≠ none) : item.argument = .setting option := by
  cases item with
  | operand | json => exact absurd rfl found
  | setting other text =>
    by_cases same : other = option
    · exact congrArg Argument.setting same
    · exact absurd (if_neg same) found

end Item

namespace Reader
variable {verb : Verb} {items : List Item} {given : Given}

theorem conventional_spelled {words : List String} (takes : verb.Takes (items.map Item.argument))
    (spelled : Item.Spelled items words) :
    conventional (verb.word :: words) = some (.ofItems verb items) := by
  rw [conventional_word, spelled.ofTexts?_eq, Option.bind_some, Given.ofItems?, if_pos takes]

theorem Hands.eq_ofItems (hands : conventional.Hands verb items given) :
    given = .ofItems verb items := by
  obtain ⟨takes, words, spelled, handed⟩ := hands
  exact Option.some.inj (handed.symm.trans (conventional_spelled takes spelled))

theorem documented_conventional : conventional.Documented where
  accepts takes spelled := ⟨_, conventional_spelled takes spelled⟩
  verb hands := by
    rw [hands.eq_ofItems]
    rfl
  operand hands written := by
    rw [hands.eq_ofItems]
    exact Item.findSome?_of_once hands.1.once written rfl fun _ => Item.argument_of_operand?
  setting hands written := by
    rw [hands.eq_ofItems, Given.text?_ofItems, Item.settingText?,
      Item.findSome?_of_once hands.1.once written (if_pos rfl) fun _ => Item.argument_of_setting?,
      Option.some_or]
  fallback hands _ absent := by
    rw [hands.eq_ofItems, Given.text?_ofItems, Item.settingText?, List.findSome?_eq_none_iff.mpr,
      Option.none_or]
    intro item member
    by_contra found
    exact absent (Item.argument_of_setting? found ▸ List.mem_map_of_mem member)
  flag hands _ := by
    rw [hands.eq_ofItems]
    exact decide_eq_true_iff

end Reader

def CaseVariant (keyword text : String) : Prop :=
  List.Forall₂ (fun kept given : Char => given = kept ∨ given = kept.toUpper) keyword.toList
    text.toList

namespace Revision

theorem map_toLower_of_variant {keyword text : List Char}
    (low : ∀ letter ∈ keyword, letter.toLower = letter ∧ letter.toUpper.toLower = letter)
    (spelled : List.Forall₂ (fun kept given : Char => given = kept ∨ given = kept.toUpper)
      keyword text) : text.map Char.toLower = keyword := by
  induction spelled with
  | nil => rfl
  | cons first _ ih =>
    obtain ⟨firstLow, restLow⟩ := List.forall_mem_cons.mp low
    rw [List.map_cons, ih restLow]
    rcases first with rfl | rfl
    · rw [firstLow.1]
    · rw [firstLow.2]

theorem ofText?_of_caseVariant {revision : Revision} {text : String}
    (spelled : CaseVariant revision.keyword text) : ofText? text = some revision := by
  have checked : (revision.keyword.toList.all fun letter =>
      letter.toLower == letter && letter.toUpper.toLower == letter) = true := by
    cases revision <;> decide
  have low : ∀ letter ∈ revision.keyword.toList,
      letter.toLower = letter ∧ letter.toUpper.toLower = letter := by
    simpa only [List.all_eq_true, Bool.and_eq_true, beq_iff_eq] using checked
  have folded : foldCase text = revision.keyword.toList := map_toLower_of_variant low spelled
  have same : foldCase text = foldCase revision.keyword := by
    rw [folded]
    cases revision <;> decide
  rw [ofText?, same]
  exact ofText?_keyword revision

end Revision

theorem Spelling.carries_of_caseVariant {revision : Revision} {text : String}
    (spelled : CaseVariant revision.keyword text) (spelling : Spelling) :
    spelling.Carries text := by
  have begun : ∃ rest, revision.keyword.toList = 'n' :: rest := by cases revision <;> exact ⟨_, rfl⟩
  obtain ⟨rest, keyword⟩ := begun
  rw [CaseVariant, keyword] at spelled
  obtain ⟨first, chars, letter, _, text⟩ := List.forall₂_cons_left_iff.mp spelled
  rcases letter with rfl | rfl
  · exact carries_of_first text (by decide) (by decide) spelling
  · exact carries_of_first text (by decide) (by decide) spelling

theorem Spelling.carries_of_supply? {text : String} {supplied : Nat}
    (count : Numeral.supply? text = some supplied) (spelling : Spelling) :
    spelling.Carries text := by
  have read : Numeral.count? text.toList = some supplied :=
    (Option.filter_eq_some_iff.mp count).1
  unfold Numeral.count? at read
  split at read
  · rename_i begun
    exact carries_of_first begun (by decide) (by decide) spelling
  · obtain ⟨given, clean, _⟩ := Numeral.digits?_eq_some_iff.mp read
    obtain ⟨first, chars, begun⟩ := List.exists_cons_of_ne_nil given
    have digit : first.isDigit := clean first (begun ▸ List.mem_cons_self)
    refine carries_of_first begun ?_ ?_ spelling
    · rintro rfl
      cases digit
    · rintro rfl
      cases digit

theorem Verb.Takes.perm {verb : Verb} {given others : List Argument} (takes : verb.Takes given)
    (order : given.Perm others) : verb.Takes others where
  known argument member := takes.known argument (order.mem_iff.mpr member)
  once := order.nodup_iff.mp takes.once
  complete argument declared required :=
    order.mem_iff.mp (takes.complete argument declared required)

namespace Command

-- A revision is chosen by its keyword in letters of any case or, if it is the later, not at all.
inductive Target : Revision → List Item → Prop where
  | omitted : Target .nwn2 []
  | named (revision : Revision) (text : String) : CaseVariant revision.keyword text →
      Target revision [.setting .revision text]

def flags : Bool → List Item
  | false => []
  | true => [.json]

inductive Stated : Command → Verb → List Item → Prop where
  | list (revision : Revision) (json : Bool) (target : List Item) : Target revision target →
      Stated (.list revision json) .list (target ++ flags json)
  | describe (text : String) (revision : Revision) (json : Bool) (target : List Item) :
      Target revision target →
      Stated (.describe text revision json) .describe (.operand text :: target ++ flags json)
  | layout (text count : String) (supplied : Nat) (revision : Revision) (target : List Item) :
      Numeral.supply? count = some supplied → Target revision target →
      Stated (.layout text supplied revision) .layout
        (.operand text :: .setting .supply count :: target)

inductive Written : Item → List String → Prop where
  | operand (text : String) : isPlain text = true → Written (.operand text) [text]
  | json : Written .json ["--json"]
  | setting (spelling : Spelling) (option : Setting) (text : String) :
      Written (.setting option text) (spelling.words option text)

-- The command's word, then groups of words for what is chosen, in any order and each in any form.
-- The action may also stand last, behind the two hyphens.
inductive Line : Command → List String → Prop where
  | mixed (command : Command) (verb : Verb) (chosen items : List Item)
      (groups : List (List String)) : command.Stated verb chosen → items.Perm chosen →
      List.Forall₂ Written items groups → Line command (verb.word :: groups.flatten)
  | behind (command : Command) (verb : Verb) (text : String) (options items : List Item)
      (groups : List (List String)) : command.Stated verb (.operand text :: options) →
      items.Perm options → List.Forall₂ Written items groups →
      Line command (verb.word :: (groups.flatten ++ ["--", text]))

variable {command : Command} {verb : Verb} {items chosen others : List Item} {given : Given}
  {read : Reader} {revision : Revision} {option : Setting} {text : String} {json : Bool}

theorem setting_not_mem_flags : .setting option text ∉ flags json := by
  cases json <;> simp [flags]

theorem json_mem_flags : .json ∈ flags json ↔ json = true := by
  cases json <;> simp [flags]

theorem map_argument_flags (json : Bool) :
    (flags json).map Item.argument = [] ∨ (flags json).map Item.argument = [.json] := by
  cases json with
  | false => exact .inl rfl
  | true => exact .inr rfl

namespace Target

theorem json_not_mem (target : Target revision chosen) : .json ∉ chosen := by
  cases target <;> simp

theorem map_argument (target : Target revision chosen) :
    chosen.map Item.argument = [] ∨ chosen.map Item.argument = [.setting .revision] := by
  cases target with
  | omitted => exact .inl rfl
  | named => exact .inr rfl

theorem carries (target : Target revision chosen) (member : .setting option text ∈ chosen)
    (spelling : Spelling) : spelling.Carries text := by
  cases target with
  | omitted => cases member
  | named revision given spelled =>
    cases List.mem_singleton.mp member
    exact Spelling.carries_of_caseVariant spelled spelling

theorem revision_eq (target : Target revision chosen) (documented : read.Documented)
    (hands : read.Hands verb items given) (declared : .setting .revision ∈ verb.arguments)
    (same : ∀ text, .setting .revision text ∈ items ↔ .setting .revision text ∈ chosen) :
    given.revision?.bind Revision.ofText? = some revision := by
  cases target with
  | omitted =>
    have absent : .setting .revision ∉ items.map Item.argument := by
      intro member
      obtain ⟨item, listed, kind⟩ := List.mem_map.mp member
      cases item with
      | operand | json => cases kind
      | setting option text =>
        cases kind
        cases (same text).mp listed
    have later : given.revision? = some "nwn2" := documented.fallback hands declared absent
    rw [later]
    exact Revision.ofText?_keyword .nwn2
  | named revision text spelled =>
    have named : given.revision? = some text :=
      documented.setting hands ((same text).mpr List.mem_cons_self)
    rw [named]
    exact Revision.ofText?_of_caseVariant spelled

end Target

theorem json_eq (documented : read.Documented) (hands : read.Hands verb items given)
    (declared : .json ∈ verb.arguments) (same : .json ∈ items ↔ json = true) :
    given.json = json :=
  Bool.eq_iff_iff.mpr ((documented.flag hands declared).trans same)

namespace Stated

theorem takes (stated : command.Stated verb chosen) : verb.Takes (chosen.map Item.argument) := by
  cases stated with
  | list revision json target selected =>
    rw [List.map_append]
    rcases selected.map_argument with named | named <;>
      rcases map_argument_flags json with form | form <;> rw [named, form] <;> decide
  | describe text revision json target selected =>
    rw [List.map_append]
    change Verb.describe.Takes (.operand :: target.map Item.argument ++ (flags json).map _)
    rcases selected.map_argument with named | named <;>
      rcases map_argument_flags json with form | form <;> rw [named, form] <;> decide
  | layout text count supplied revision target counted selected =>
    change Verb.layout.Takes (.operand :: .setting .supply :: target.map Item.argument)
    rcases selected.map_argument with named | named <;> rw [named] <;> decide

theorem carries (stated : command.Stated verb chosen) (member : .setting option text ∈ chosen)
    (spelling : Spelling) : spelling.Carries text := by
  cases stated with
  | list revision json target selected =>
    have named := (List.mem_append.mp member).resolve_right setting_not_mem_flags
    exact selected.carries named spelling
  | describe action revision json target selected =>
    rcases List.mem_cons.mp ((List.mem_append.mp member).resolve_right setting_not_mem_flags) with
      same | named
    · cases same
    · exact selected.carries named spelling
  | layout action count supplied revision target counted selected =>
    rcases List.mem_cons.mp member with same | behind
    · cases same
    · rcases List.mem_cons.mp behind with same | named
      · cases same
        exact Spelling.carries_of_supply? counted spelling
      · exact selected.carries named spelling

theorem ofGiven?_eq (stated : command.Stated verb chosen) (documented : read.Documented)
    (hands : read.Hands verb items given) (order : items.Perm chosen) :
    ofGiven? given = some command := by
  have asked := documented.verb hands
  cases stated with
  | list revision json target selected =>
    have named := selected.revision_eq documented hands (by decide) fun text => by
      simp [order.mem_iff, setting_not_mem_flags]
    have form : given.json = json := json_eq documented hands (by decide) (by
      simp [order.mem_iff, selected.json_not_mem, json_mem_flags])
    rw [ofGiven?_list asked named, form]
  | describe action revision json target selected =>
    have pointed := documented.operand hands (order.mem_iff.mpr List.mem_cons_self)
    have named := selected.revision_eq documented hands (by decide) fun text => by
      simp [order.mem_iff, setting_not_mem_flags]
    have form : given.json = json := json_eq documented hands (by decide) (by
      simp [order.mem_iff, selected.json_not_mem, json_mem_flags])
    rw [ofGiven?_describe asked pointed named, form]
  | layout action count supplied revision target counted selected =>
    have pointed := documented.operand hands (order.mem_iff.mpr List.mem_cons_self)
    have number : given.supply? = some count :=
      documented.setting hands (order.mem_iff.mpr (List.mem_cons_of_mem _ List.mem_cons_self))
    have named := selected.revision_eq documented hands (by decide) fun text => by
      simp [order.mem_iff]
    exact ofGiven?_layout asked pointed (by rw [number]; exact counted) named

theorem command?_eq (stated : command.Stated verb chosen) (documented : read.Documented)
    {words : List String} (order : items.Perm chosen) (spelled : Item.Spelled items words) :
    read.command? (verb.word :: words) = some command := by
  have takes : verb.Takes (items.map Item.argument) := stated.takes.perm (order.map _).symm
  obtain ⟨given, handed⟩ := documented.accepts takes spelled
  rw [Reader.command?, handed, Option.bind_some]
  exact stated.ofGiven?_eq documented ⟨takes, words, spelled, handed⟩ order

end Stated

theorem spelled_of_written {groups : List (List String)} {words : List String}
    (written : List.Forall₂ Written items groups)
    (carried : ∀ option text, .setting option text ∈ items →
      ∀ spelling : Spelling, spelling.Carries text)
    (rest : Item.Spelled others words) :
    Item.Spelled (items ++ others) (groups.flatten ++ words) := by
  induction written with
  | nil => exact rest
  | cons first _ ih =>
    have behind := ih fun option text member =>
      carried option text (List.mem_cons_of_mem _ member)
    rw [List.flatten_cons, List.append_assoc]
    cases first with
    | operand text plain => exact .operand text plain behind
    | json => exact .json behind
    | setting spelling option text =>
      exact .setting spelling option text (carried option text List.mem_cons_self spelling) behind

theorem Line.understood {arguments : List String} (line : command.Line arguments)
    (documented : read.Documented) : read.command? arguments = some command := by
  cases line with
  | mixed verb chosen items groups stated order written =>
    have spelled := spelled_of_written written
      (fun _ _ member => stated.carries (order.mem_iff.mp member)) .none
    rw [List.append_nil, List.append_nil] at spelled
    exact stated.command?_eq documented order spelled
  | behind verb text options items groups stated order written =>
    have spelled := spelled_of_written written
      (fun _ _ member => stated.carries (List.mem_cons_of_mem _ (order.mem_iff.mp member)))
      (.operandsOnly [text])
    -- Read last, the action is one item more, and where it stands among them is of no importance.
    have moved : (items ++ [Item.operand text]).Perm (.operand text :: options) :=
      (List.perm_append_singleton _ _).trans (order.cons _)
    exact stated.command?_eq documented moved spelled

end Command

-- Whatever reads words as readers promise to, all lines of a command are answered alike: in any
-- order and spelling of what is chosen, with the later revision not named, and with the action,
-- then any text, behind the two hyphens.
theorem command_line_exact (read : Reader) (documented : read.Documented)
    (catalogs : Revision → Catalog) (command : Command) (arguments : List String)
    (line : command.Line arguments) :
    read.answer? catalogs arguments = some (command.respond catalogs) := by
  rw [Reader.answer?, line.understood documented, Option.map_some]

theorem lines_of_one_command_answered_alike :
    respond? (Shipped.catalog .full) ["show", "-rNWN1", "--json", "79"] =
        respond? (Shipped.catalog .full) ["show", "79", "--json", "--revision", "nWn1"] ∧
      respond? (Shipped.catalog .full) ["show", "-rNWN1", "--json", "79"] =
        respond? (Shipped.catalog .full) ["show", "--json", "-r=nwn1", "--", "79"] ∧
      respond? (Shipped.catalog .full) ["layout", "-a", "+2", "79"] =
        respond? (Shipped.catalog .full) ["layout", "79", "--revision=NWN2", "--args=2"] ∧
      ∃ report, respond? (Shipped.catalog .full) ["show", "--", "-79"] = some report := by
  have alike := command_line_exact .conventional Reader.documented_conventional
    (Shipped.catalog .full)
  have chosen : ∀ text : String, CaseVariant "nwn1" text →
      Command.Stated (.describe "79" .nwn1 true) .describe
        [.operand "79", .setting .revision text, .json] :=
    fun text spelled => .describe "79" .nwn1 true _ (.named .nwn1 text spelled)
  have operand : Command.Written (.operand "79") ["79"] := .operand "79" (by decide)
  have joined : Command.Line (.describe "79" .nwn1 true) ["show", "-rNWN1", "--json", "79"] :=
    .mixed _ .describe _ [.setting .revision "NWN1", .json, .operand "79"]
      [["-rNWN1"], ["--json"], ["79"]] (chosen "NWN1" (by unfold CaseVariant; decide)) (by decide)
      (.cons (.setting .letterJoined _ _) (.cons .json (.cons operand .nil)))
  have apart : Command.Line (.describe "79" .nwn1 true)
      ["show", "79", "--json", "--revision", "nWn1"] :=
    .mixed _ .describe _ [.operand "79", .json, .setting .revision "nWn1"]
      [["79"], ["--json"], ["--revision", "nWn1"]]
      (chosen "nWn1" (by unfold CaseVariant; decide)) (by decide)
      (.cons operand (.cons .json (.cons (.setting .nameApart _ _) .nil)))
  have behind : Command.Line (.describe "79" .nwn1 true)
      ["show", "--json", "-r=nwn1", "--", "79"] :=
    .behind _ .describe "79" _ [.json, .setting .revision "nwn1"] [["--json"], ["-r=nwn1"]]
      (chosen "nwn1" (by unfold CaseVariant; decide)) (by decide)
      (.cons .json (.cons (.setting .letterEquals _ _) .nil))
  have omitted : Command.Line (.layout "79" 2 .nwn2) ["layout", "-a", "+2", "79"] :=
    .mixed _ .layout _ [.setting .supply "+2", .operand "79"] [["-a", "+2"], ["79"]]
      (.layout "79" "+2" 2 .nwn2 [] (by decide) .omitted) (by decide)
      (.cons (.setting .letterApart _ _) (.cons operand .nil))
  have named : Command.Line (.layout "79" 2 .nwn2)
      ["layout", "79", "--revision=NWN2", "--args=2"] :=
    .mixed _ .layout _ [.operand "79", .setting .revision "NWN2", .setting .supply "2"]
      [["79"], ["--revision=NWN2"], ["--args=2"]]
      (.layout "79" "2" 2 .nwn2 _ (by decide)
        (.named .nwn2 "NWN2" (by unfold CaseVariant; decide))) (by decide)
      (.cons operand (.cons (.setting .nameEquals _ _) (.cons (.setting .nameEquals _ _) .nil)))
  have hyphen : Command.Line (.describe "-79" .nwn2 false) ["show", "--", "-79"] :=
    .behind _ .describe "-79" [] [] [] (.describe "-79" .nwn2 false [] .omitted) .nil .nil
  exact ⟨(alike _ _ joined).trans (alike _ _ apart).symm,
    (alike _ _ joined).trans (alike _ _ behind).symm,
    (alike _ _ omitted).trans (alike _ _ named).symm, _, alike _ _ hyphen⟩

end EngineActions
