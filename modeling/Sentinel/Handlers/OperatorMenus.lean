import Sentinel.App.TelegramAdapters
import Sentinel.Handlers.Conversation
import Sentinel.Handlers.FollowByText
import Sentinel.Paging
import Mathlib.Data.Sum.Order

/-!
# The menus of node operators

A chat follows and unfollows node operators from two menus, which show some operators on pages
of eight buttons. The data of a button names the operator or the page that it is for, and the
patterns of the conversation decide which handler reads the data back.
-/

namespace Sentinel.Handlers

open Python
open Admin (InlineKeyboardButton Callback isNumbered isCallback dropLineBreak)

/-! ### Menus -/

inductive Menu where
  | follow
  | unfollow

namespace Menu

def operatorPrefix : Menu → String
  | follow => followOperatorPrefix
  | unfollow => unfollowOperatorPrefix

def pagePrefix : Menu → String
  | follow => "follow_no_page:"
  | unfollow => "unfollow_no_page:"

end Menu

structure NodeOperatorOption where
  id : ℕ
  label : String

def operatorButtonPageSize : ℕ := 8

/-- The text of a button, cut when it is long. -/
def operatorButtonText (label : String) : String :=
  if label.length ≤ 58 then label else String.ofList (label.toList.take 55) ++ "..."

abbrev InlineKeyboardMarkup := List (List InlineKeyboardButton)

/-- The page that is shown for a requested one. -/
def shownPage (optionCount : ℕ) (page : ℤ) : ℕ :=
  (min (max page 0) (Paging.pageCount operatorButtonPageSize optionCount - 1 : ℤ)).toNat

/-- The button of an operator. -/
def operatorButton (operatorPrefix : String) (option : NodeOperatorOption) :
    InlineKeyboardButton where
  text := operatorButtonText option.label
  callbackData := operatorPrefix ++ toString option.id

/-- The buttons to the pages before and after a page. -/
def navigation (pagePrefix : String) (pageCount page : ℕ) : List InlineKeyboardButton :=
  (if 0 < page then [⟨"Previous", pagePrefix ++ toString (page - 1)⟩] else [])
    ++ if page + 1 < pageCount then [⟨"Next", pagePrefix ++ toString (page + 1)⟩] else []

def backButton (buttonBack : String) : InlineKeyboardButton where
  text := buttonBack
  callbackData := Callback.back.value

def buildOperatorKeyboard (buttonBack : String) (options : List NodeOperatorOption)
    (operatorPrefix pagePrefix : String) (page : ℤ) : InlineKeyboardMarkup :=
  let pageCount := Paging.pageCount operatorButtonPageSize options.length
  let page := shownPage options.length page
  let pageOptions := Paging.page operatorButtonPageSize options page
  (pageOptions.map fun option => [operatorButton operatorPrefix option])
    ++ (if 1 < pageCount then [navigation pagePrefix pageCount page] else [])
    ++ [[backButton buttonBack]]

/-- The keyboard of a menu with some options. -/
def Menu.keyboard (menu : Menu) (buttonBack : String) (options : List NodeOperatorOption)
    (page : ℤ) : InlineKeyboardMarkup :=
  buildOperatorKeyboard buttonBack options menu.operatorPrefix menu.pagePrefix page

/-! ### Handlers of the buttons -/

inductive MenuHandler where
  | button
  | page
  | startOver
deriving DecidableEq

/-- The handlers of the buttons at the state of a menu, with the patterns of their data. -/
def Menu.handlers (menu : Menu) : List ((String → Bool) × MenuHandler) :=
  [ (isNumbered menu.operatorPrefix, .button)
  , (isNumbered menu.pagePrefix, .page)
  , (isCallback .back, .startOver) ]

/-- The handlers whose patterns the data of a button matches, the first of which is called. -/
def Menu.matching (menu : Menu) (data : String) : List MenuHandler :=
  (menu.handlers.filter fun entry => entry.1 data).map (·.2)

/-- The page that the data of a button is for, `none` where it is no number. -/
def Menu.readPage (menu : Menu) (data : String) : Option ℤ :=
  int (removePrefix data menu.pagePrefix)

/-! ### Prompts -/

/-- Where a node operator is in the order of the ids, `none` where its id is a text of digits
that is no number. -/
def idSortKey (nodeOperatorId : String) : Option (ℤ ⊕ₗ String) :=
  if isDigit nodeOperatorId then (int nodeOperatorId).map fun number => toLex (.inl number)
  else some (toLex (.inr nodeOperatorId))

/-- The ids by their numbers, then those that are no numbers. The ids come in some order. -/
def sortNodeOperatorIds (order : SetOrder String) (nodeOperatorIds : Finset String) :
    Option (List String) := do
  let keyed ← (order.toList nodeOperatorIds).mapM fun nodeOperatorId =>
    (idSortKey nodeOperatorId).map fun key => (key, nodeOperatorId)
  return (sortBy Prod.fst keyed).map Prod.snd

/-- What the module answers while a prompt is built, `none` where reading it raises. -/
structure MenuReads where
  /-- the labels in the text -/
  following : ℤ → Option String
  /-- the labels on the buttons -/
  label : ℤ → Option String
  nodeOperatorOptions : Option (List NodeOperatorOption)

/-- The texts of the prompts of a module. -/
structure MenuTexts where
  buttonBack : String
  followNodeOperatorText : String
  followNodeOperatorFollowing : String → String
  unfollowNodeOperatorText : String
  unfollowNodeOperatorFollowing : String → String
  unfollowNodeOperatorNotFollowing : String

/-- The labels of the followed operators, in a line when they are numbers, else each in a line of
its own. -/
def formatFollowing (order : SetOrder String) (reads : MenuReads)
    (nodeOperatorIds : Finset String) : Option String := do
  let sorted ← sortNodeOperatorIds order nodeOperatorIds
  let labels ← sorted.mapM fun nodeOperatorId =>
    if isDigit nodeOperatorId then (int nodeOperatorId).bind reads.following
    else some ("#" ++ nodeOperatorId)
  if labels.all fun label => startsWith label "#" && isDigit (removePrefix label "#") then
    return ", ".intercalate labels
  else return "\n".intercalate (labels.map fun label => "- " ++ label)

/-- The followed operators with numbers. -/
def followedOperatorOptions (order : SetOrder String) (reads : MenuReads)
    (nodeOperatorIds : Finset String) : Option (List NodeOperatorOption) := do
  let sorted ← sortNodeOperatorIds order nodeOperatorIds
  (sorted.filter isDigit).mapM fun nodeOperatorId => do
    let numericId ← int nodeOperatorId
    let label ← reads.label numericId
    -- a text of digits has no sign
    return ⟨numericId.toNat, label⟩

/-- The operators that a chat does not follow. -/
def followOptions (reads : MenuReads) (nodeOperatorIds : Finset String) :
    Option (List NodeOperatorOption) :=
  reads.nodeOperatorOptions.map fun options =>
    options.filter fun option => toString option.id ∉ nodeOperatorIds

/-- The operators that a menu has. -/
def Menu.options (order : SetOrder String) (reads : MenuReads) (nodeOperatorIds : Finset String) :
    Menu → Option (List NodeOperatorOption)
  | follow => followOptions reads nodeOperatorIds
  | unfollow => followedOperatorOptions order reads nodeOperatorIds

def buildFollowPrompt (texts : MenuTexts) (order : SetOrder String) (reads : MenuReads)
    (nodeOperatorIds : Finset String) (page : ℤ) : Option (String × InlineKeyboardMarkup) := do
  let text ←
    if nodeOperatorIds = ∅ then some texts.followNodeOperatorText
    else (formatFollowing order reads nodeOperatorIds).map fun following =>
      texts.followNodeOperatorFollowing following ++ texts.followNodeOperatorText
  let options ← followOptions reads nodeOperatorIds
  return (text, Menu.follow.keyboard texts.buttonBack options page)

def buildUnfollowPrompt (texts : MenuTexts) (order : SetOrder String) (reads : MenuReads)
    (nodeOperatorIds : Finset String) (page : ℤ) : Option (String × InlineKeyboardMarkup) := do
  let text ←
    if nodeOperatorIds = ∅ then some texts.unfollowNodeOperatorNotFollowing
    else (formatFollowing order reads nodeOperatorIds).map fun following =>
      texts.unfollowNodeOperatorFollowing following ++ texts.unfollowNodeOperatorText
  let options ← followedOperatorOptions order reads nodeOperatorIds
  return (text, Menu.unfollow.keyboard texts.buttonBack options page)

/-- The prompt of a menu. -/
def Menu.prompt (texts : MenuTexts) (order : SetOrder String) (reads : MenuReads)
    (nodeOperatorIds : Finset String) (page : ℤ) :
    Menu → Option (String × InlineKeyboardMarkup)
  | follow => buildFollowPrompt texts order reads nodeOperatorIds page
  | unfollow => buildUnfollowPrompt texts order reads nodeOperatorIds page

/-! ### The data of the buttons -/

/-- A text with the digits of a number at its end has no line break there. -/
theorem dropLineBreak_append (p : String) (n : ℕ) :
  dropLineBreak (p ++ toString n) = p ++ toString n
  := by
  rw [dropLineBreak, if_neg]
  have hne : (toString n).toList ≠ [] := by
    have hdigits : (toString n).toList = Nat.toDigits 10 n := Nat.toList_repr
    rw [hdigits]
    apply Nat.toDigits_ne_nil
  rw [String.toList_append, List.getLast?_append_of_ne_nil _ hne]
  intro hlast
  have hplain := isPlain_of_isDigit (isDigit_of_numeral (numeral_toString n)) _
    (List.mem_of_getLast? hlast)
  have hspace : isSpace '\n' = true := by decide
  rw [hplain.notSpace] at hspace
  cases hspace

theorem dropLineBreak_toString (n : ℕ) :
  dropLineBreak (toString n) = toString n
  := by
  have h := dropLineBreak_append "" n
  rwa [String.empty_append] at h

theorem isDecimal_toString (n : ℕ) :
  Python.isDecimal (toString n) = true
  := by
  have hnumeral := numeral_toString n
  rw [numeral] at hnumeral
  split at hnumeral
  next => cases hnumeral
  next hne =>
      rw [Python.isDecimal, Bool.and_eq_true, List.all_eq_true]
      use decide_eq_true hne
      apply decimal_of_numeralFrom hnumeral

/-- A prefix and the digits of a number match the pattern of the prefix. -/
theorem isNumbered_append (p : String) (n : ℕ) :
  isNumbered p (p ++ toString n) = true
  := by
  rw [isNumbered, startsWith_append, removePrefix_append, dropLineBreak_toString,
    isDecimal_toString, Bool.true_and]

/-- A text with another beginning does not match the pattern of a prefix. -/
theorem isNumbered_eq_false {p data : String} (h : startsWith data p = false) :
  isNumbered p data = false
  := by
  rw [isNumbered, h, Bool.false_and]

namespace Menu

/-- The data of a button of an operator or of a page is not that of the button back. -/
theorem isCallback_append {menu : Menu} {p : String}
    (h : p = menu.operatorPrefix ∨ p = menu.pagePrefix) (n : ℕ) :
  isCallback .back (p ++ toString n) = false
  := by
  rw [isCallback, dropLineBreak_append, decide_eq_false_iff_not]
  intro heq
  have hlists := congrArg String.toList heq
  rw [String.toList_append] at hlists
  rcases h with rfl | rfl
  · cases menu <;> cases hlists
  · cases menu <;> cases hlists

/-- The button of an operator is handled as one. -/
theorem matching_operator (menu : Menu) (n : ℕ) :
  menu.matching (menu.operatorPrefix ++ toString n) = [.button]
  := by
  have hpage : isNumbered menu.pagePrefix (menu.operatorPrefix ++ toString n) = false := by
    apply isNumbered_eq_false
    rw [startsWith, String.toList_append]
    cases menu <;> rfl
  simp only [matching, handlers, List.filter_cons, List.filter_nil, isNumbered_append, hpage,
    isCallback_append (Or.inl rfl), if_true, Bool.false_eq_true, if_false, List.map_cons,
    List.map_nil]

/-- The button of a page is handled as one. -/
theorem matching_page (menu : Menu) (n : ℕ) :
  menu.matching (menu.pagePrefix ++ toString n) = [.page]
  := by
  have hoperator : isNumbered menu.operatorPrefix (menu.pagePrefix ++ toString n) = false := by
    apply isNumbered_eq_false
    rw [startsWith, String.toList_append]
    cases menu <;> rfl
  simp only [matching, handlers, List.filter_cons, List.filter_nil, isNumbered_append, hoperator,
    isCallback_append (Or.inr rfl), if_true, Bool.false_eq_true, if_false, List.map_cons,
    List.map_nil]

/-- The button back is handled as one. -/
theorem matching_back (menu : Menu) :
  menu.matching Callback.back.value = [.startOver]
  := by
  cases menu <;> decide

end Menu

/-! ### Pages of a menu -/

/-- A page that is shown is one of the pages. -/
theorem shownPage_lt (optionCount : ℕ) (page : ℤ) :
  shownPage optionCount page < Paging.pageCount operatorButtonPageSize optionCount
  := by
  have hpos := Paging.pageCount_pos operatorButtonPageSize optionCount
  rw [shownPage]
  omega

/-- One of the pages is shown when it is requested. -/
theorem shownPage_natCast {optionCount k : ℕ}
    (h : k < Paging.pageCount operatorButtonPageSize optionCount) :
  shownPage optionCount k = k
  := by
  rw [shownPage]
  omega

/-- The keyboard for a requested page is that of the page that is shown. -/
theorem Menu.keyboard_shownPage (menu : Menu) (buttonBack : String)
    (options : List NodeOperatorOption) (page : ℤ) :
  menu.keyboard buttonBack options page
    = menu.keyboard buttonBack options (shownPage options.length page)
  := by
  rw [Menu.keyboard, Menu.keyboard, buildOperatorKeyboard, buildOperatorKeyboard,
    shownPage_natCast (shownPage_lt options.length page)]

/-- The buttons to other pages. -/
theorem mem_navigation {pagePrefix : String} {pageCount page : ℕ}
    {button : InlineKeyboardButton} :
  button ∈ navigation pagePrefix pageCount page
    ↔ 0 < page ∧ button = ⟨"Previous", pagePrefix ++ toString (page - 1)⟩
      ∨ page + 1 < pageCount ∧ button = ⟨"Next", pagePrefix ++ toString (page + 1)⟩
  := by
  rw [navigation, List.mem_append]
  split_ifs <;> simp [*]

/-- The buttons of a keyboard. -/
theorem mem_flatten_keyboard {menu : Menu} {buttonBack : String}
    {options : List NodeOperatorOption} {page : ℤ} {button : InlineKeyboardButton} :
  button ∈ (menu.keyboard buttonBack options page).flatten
    ↔ (∃ option ∈ Paging.page operatorButtonPageSize options (shownPage options.length page),
        operatorButton menu.operatorPrefix option = button)
      ∨ button ∈ navigation menu.pagePrefix
          (Paging.pageCount operatorButtonPageSize options.length)
          (shownPage options.length page)
      ∨ button = backButton buttonBack
  := by
  have hnavigation : ¬ 1 < Paging.pageCount operatorButtonPageSize options.length →
      button ∉ navigation menu.pagePrefix
        (Paging.pageCount operatorButtonPageSize options.length)
        (shownPage options.length page) := by
    have hlt := shownPage_lt options.length page
    rw [mem_navigation]
    omega
  have hrows : ∀ l : List NodeOperatorOption,
      (l.map fun option => [operatorButton menu.operatorPrefix option]).flatten
        = l.map (operatorButton menu.operatorPrefix) := by
    intro l
    induction l with
    | nil => rfl
    | cons option l ih =>
        rw [List.map_cons, List.flatten_cons, ih]
        rfl
  simp only [Menu.keyboard, buildOperatorKeyboard, List.flatten_append, hrows, List.mem_append,
    List.mem_map, List.flatten_singleton, List.mem_singleton, or_assoc]
  split_ifs with hmany
  · rw [List.flatten_singleton]
  · simp [hnavigation hmany]

/-- The pages that a chat opens from the first page of a menu with the buttons to other pages. -/
inductive Menu.Opened (menu : Menu) (buttonBack : String) (options : List NodeOperatorOption) :
    ℤ → Prop
  | first : Menu.Opened menu buttonBack options 0
  | turned {page page' : ℤ} {button : InlineKeyboardButton}
      (hopened : Menu.Opened menu buttonBack options page)
      (hbutton : button ∈ (menu.keyboard buttonBack options page).flatten)
      (hhandler : (menu.matching button.callbackData).head? = some .page)
      (hread : menu.readPage button.callbackData = some page') :
    Menu.Opened menu buttonBack options page'

/-- What the button of a keyboard is for, as its handler reads it. -/
inductive Menu.ReadBack (menu : Menu) (buttonBack : String) (options : List NodeOperatorOption)
    (page : ℤ) (data : String) : Prop
  /-- an operator on the page -/
  | operator (option : NodeOperatorOption)
      (hoption : option ∈
        Paging.page operatorButtonPageSize options (shownPage options.length page))
      (hmatching : menu.matching data = [.button])
      (hread : removePrefix data menu.operatorPrefix = toString option.id)
  /-- the page before or after the page -/
  | page (page' : ℕ) (hmatching : menu.matching data = [.page])
      (hpage : page' < Paging.pageCount operatorButtonPageSize options.length)
      (hnext : page' + 1 = shownPage options.length page
        ∨ page' = shownPage options.length page + 1)
      (hread : menu.readPage data = some (page' : ℤ))
  /-- the way back -/
  | startOver (hmatching : menu.matching data = [.startOver]) (hdata : data = Callback.back.value)

/-- The pages of a menu show its operators, and its buttons are read back as what they are
for. -/
structure Menu.Complete (menu : Menu) (buttonBack : String) (options : List NodeOperatorOption) :
    Prop where
  /-- the pages that a chat opens are all the pages -/
  opened : ∀ page, menu.Opened buttonBack options page
    ↔ ∃ k < Paging.pageCount operatorButtonPageSize options.length, page = (k : ℤ)
  /-- whatever page is requested, a page that a chat opens is shown -/
  shown : ∀ page, menu.Opened buttonBack options (shownPage options.length page)
    ∧ menu.keyboard buttonBack options page
        = menu.keyboard buttonBack options (shownPage options.length page)
  /-- and it has the button of an operator, unless there are none -/
  offers : options ≠ [] → ∀ page, ∃ option ∈ options,
    operatorButton menu.operatorPrefix option
      ∈ (menu.keyboard buttonBack options page).flatten
  /-- every operator has a button on one of them -/
  once : ∀ option ∈ options, ∃! page, menu.Opened buttonBack options page
    ∧ operatorButton menu.operatorPrefix option
        ∈ (menu.keyboard buttonBack options page).flatten
  /-- whatever page is requested, each button is for one handler, which reads it back -/
  readBack : ∀ page, ∀ button ∈ (menu.keyboard buttonBack options page).flatten,
    menu.ReadBack buttonBack options page button.callbackData
  /-- every row has a button, there are few rows, and the last one is the way back -/
  rows : ∀ page, (∀ row ∈ menu.keyboard buttonBack options page, row ≠ [])
    ∧ (menu.keyboard buttonBack options page).length ≤ operatorButtonPageSize + 2
    ∧ (menu.keyboard buttonBack options page).getLast? = some [backButton buttonBack]

/-- A page of a menu is not past as many pages as there are operators. -/
theorem pageCount_le (n : ℕ) :
  Paging.pageCount operatorButtonPageSize n ≤ n + 1
  := by
  rw [Paging.pageCount, operatorButtonPageSize]
  omega

/-- The data of the button to a page is read back as the page. -/
theorem Menu.readPage_append (menu : Menu) {k : ℕ} (h : k < 10 ^ maxStrDigits) :
  menu.readPage (menu.pagePrefix ++ toString k) = some (k : ℤ)
  := by
  rw [readPage, removePrefix_append, int_toString h]

/-- Every button of a keyboard is read back. -/
theorem Menu.readBack_of_mem (menu : Menu) {buttonBack : String}
    {options : List NodeOperatorOption} (hlength : options.length < 10 ^ maxStrDigits)
    {page : ℤ} {button : InlineKeyboardButton}
    (h : button ∈ (menu.keyboard buttonBack options page).flatten) :
  menu.ReadBack buttonBack options page button.callbackData
  := by
  have hlt := shownPage_lt options.length page
  have hle := pageCount_le options.length
  rcases mem_flatten_keyboard.mp h with ⟨option, hoption, rfl⟩ | hnavigation | rfl
  · apply ReadBack.operator option hoption (menu.matching_operator option.id)
    apply removePrefix_append
  · rcases mem_navigation.mp hnavigation with ⟨hpos, rfl⟩ | ⟨hnext, rfl⟩
    · apply ReadBack.page (shownPage options.length page - 1) (menu.matching_page _)
      · omega
      · omega
      · apply menu.readPage_append
        omega
    · apply ReadBack.page (shownPage options.length page + 1) (menu.matching_page _) hnext
      · apply Or.inr rfl
      · apply menu.readPage_append
        omega
  · apply ReadBack.startOver menu.matching_back rfl

/-- A chat opens the pages one after the other. -/
theorem Menu.opened_natCast (menu : Menu) {buttonBack : String}
    {options : List NodeOperatorOption} (hlength : options.length < 10 ^ maxStrDigits) {k : ℕ}
    (h : k < Paging.pageCount operatorButtonPageSize options.length) :
  menu.Opened buttonBack options k
  := by
  induction k with
  | zero => apply Opened.first
  | succ k ih =>
      have hle := pageCount_le options.length
      have hk : k < Paging.pageCount operatorButtonPageSize options.length := by omega
      have hbutton : ⟨"Next", menu.pagePrefix ++ toString (k + 1)⟩
          ∈ (menu.keyboard buttonBack options k).flatten := by
        apply mem_flatten_keyboard.mpr
        right
        left
        rw [shownPage_natCast hk]
        apply mem_navigation.mpr (Or.inr ⟨h, rfl⟩)
      apply Opened.turned (ih hk) hbutton
      · rw [menu.matching_page]
        rfl
      · apply menu.readPage_append
        omega

/-- A chat opens pages of the menu only. -/
theorem Menu.Opened.exists_lt {menu : Menu} {buttonBack : String}
    {options : List NodeOperatorOption} (hlength : options.length < 10 ^ maxStrDigits) {page : ℤ}
    (h : menu.Opened buttonBack options page) :
  ∃ k < Paging.pageCount operatorButtonPageSize options.length, page = (k : ℤ)
  := by
  cases h with
  | first =>
      use 0, Paging.pageCount_pos _ _
      rfl
  | turned hopened hbutton hhandler hread =>
      rcases menu.readBack_of_mem hlength hbutton with
        ⟨_, _, hmatching, _⟩ | ⟨k, _, hk, _, hk'⟩ | ⟨hmatching, _⟩
      · rw [hmatching] at hhandler
        cases hhandler
      · use k, hk
        rw [hread] at hk'
        apply Option.some.inj hk'
      · rw [hmatching] at hhandler
        cases hhandler

/-- The buttons of different operators differ. -/
theorem operatorButton_injective {operatorPrefix : String} {option option' : NodeOperatorOption}
    (h : operatorButton operatorPrefix option = operatorButton operatorPrefix option') :
  option.id = option'.id
  := by
  have hdata : operatorPrefix ++ toString option.id = operatorPrefix ++ toString option'.id :=
    congrArg InlineKeyboardButton.callbackData h
  apply toString_injective
  apply (String.append_right_inj operatorPrefix).mp hdata

/-- The button of an operator is neither one to a page nor the way back. -/
theorem Menu.operatorButton_mem_iff (menu : Menu) {buttonBack : String}
    {options : List NodeOperatorOption} (hnodup : (options.map NodeOperatorOption.id).Nodup)
    {page : ℤ} {option : NodeOperatorOption} (hoption : option ∈ options) :
  operatorButton menu.operatorPrefix option ∈ (menu.keyboard buttonBack options page).flatten
    ↔ option ∈ Paging.page operatorButtonPageSize options (shownPage options.length page)
  := by
  have hmatching := menu.matching_operator option.id
  rw [mem_flatten_keyboard]
  constructor
  · rintro (⟨option', hmem, heq⟩ | hnavigation | hback)
    · rwa [← List.inj_on_of_nodup_map hnodup (Paging.mem_of_mem_page hmem) hoption
        (operatorButton_injective heq)]
    · rcases mem_navigation.mp hnavigation with ⟨-, heq⟩ | ⟨-, heq⟩
      all_goals
        have hdata := congrArg InlineKeyboardButton.callbackData heq
        simp only [operatorButton] at hdata
        rw [hdata, menu.matching_page] at hmatching
        cases hmatching
    · have hdata := congrArg InlineKeyboardButton.callbackData hback
      simp only [operatorButton, backButton] at hdata
      rw [hdata, menu.matching_back] at hmatching
      cases hmatching
  · intro hmem
    apply Or.inl ⟨option, hmem, rfl⟩

/-- The rows of a keyboard. -/
theorem Menu.rows_keyboard (menu : Menu) (buttonBack : String)
    (options : List NodeOperatorOption) (page : ℤ) :
  (∀ row ∈ menu.keyboard buttonBack options page, row ≠ [])
    ∧ (menu.keyboard buttonBack options page).length ≤ operatorButtonPageSize + 2
    ∧ (menu.keyboard buttonBack options page).getLast? = some [backButton buttonBack]
  := by
  have hlt := shownPage_lt options.length page
  have hsize := Paging.length_page_le operatorButtonPageSize options
    (shownPage options.length page)
  refine ⟨?_, ?_, List.getLast?_concat ..⟩
  · intro row hrow
    rcases List.mem_append.mp hrow with hrow | hrow
    · rcases List.mem_append.mp hrow with hrow | hrow
      · obtain ⟨option, -, rfl⟩ := List.mem_map.mp hrow
        apply List.cons_ne_nil
      · split at hrow
        next hmany =>
            rw [List.mem_singleton.mp hrow, navigation]
            -- of several pages, each has one before it or after it
            split_ifs with hfirst hlast
            · apply List.cons_ne_nil
            · apply List.cons_ne_nil
            · apply List.cons_ne_nil
            · omega
        next => cases hrow
    · rw [List.mem_singleton.mp hrow]
      apply List.cons_ne_nil
  · simp only [Menu.keyboard, buildOperatorKeyboard, List.length_append, List.length_map,
      List.length_singleton]
    split_ifs
    · rw [List.length_singleton]
      omega
    · rw [List.length_nil]
      omega

/-- Every menu of operators is complete, whatever its operators are. -/
theorem Menu.complete (menu : Menu) (buttonBack : String) {options : List NodeOperatorOption}
    (hnodup : (options.map NodeOperatorOption.id).Nodup)
    (hlength : options.length < 10 ^ maxStrDigits) :
  menu.Complete buttonBack options
  where
  opened := by
    intro page
    constructor
    · apply Opened.exists_lt hlength
    · rintro ⟨k, hk, rfl⟩
      apply menu.opened_natCast hlength hk
  shown := by
    intro page
    constructor
    · apply menu.opened_natCast hlength (shownPage_lt options.length page)
    · apply menu.keyboard_shownPage
  offers := by
    intro hne page
    have hpage := Paging.page_ne_nil (by decide : 0 < operatorButtonPageSize) hne
      (shownPage_lt options.length page)
    obtain ⟨option, hmem⟩ := List.exists_mem_of_ne_nil _ hpage
    have hoption := Paging.mem_of_mem_page hmem
    use option, hoption
    apply (menu.operatorButton_mem_iff hnodup hoption).mpr hmem
  once := by
    intro option hoption
    obtain ⟨k, hk, hmem⟩ := Paging.exists_mem_page (by decide : 0 < operatorButtonPageSize) hoption
    use k
    constructor
    · use menu.opened_natCast hlength hk
      rw [menu.operatorButton_mem_iff hnodup hoption, shownPage_natCast hk]
      apply hmem
    · rintro page ⟨hopened, hbutton⟩
      obtain ⟨k', hk', rfl⟩ := hopened.exists_lt hlength
      rw [menu.operatorButton_mem_iff hnodup hoption, shownPage_natCast hk'] at hbutton
      rw [Paging.eq_of_mem_page hnodup.of_map hmem hbutton]
  readBack := by
    intro page button hbutton
    apply menu.readBack_of_mem hlength hbutton
  rows := menu.rows_keyboard buttonBack options

/-- Nine operators, which take two pages. -/
def nineOptions : List NodeOperatorOption :=
  (List.range 9).map fun id => ⟨id, "#" ++ toString id⟩

theorem complete_nineOptions :
  Menu.follow.Complete "Back" nineOptions
  := by
  have hlength : nineOptions.length < 10 ^ maxStrDigits := by
    apply lt_of_lt_of_le (by decide : nineOptions.length < 10 ^ 1)
    apply Nat.pow_le_pow_right (by decide) (by decide)
  apply Menu.follow.complete "Back" (by decide) hlength

example : (Menu.follow.keyboard "Back" nineOptions 7).flatten.map InlineKeyboardButton.callbackData
  = ["follow_no:8", "follow_no_page:0", "4"]
  := by decide

end Sentinel.Handlers
