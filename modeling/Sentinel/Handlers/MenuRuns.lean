import Sentinel.Handlers.OperatorMenus
import Sentinel.Loops

/-!
# Node operators in the menus

As long as the chats press buttons that the menus have, every operator that is stored is stored
by the digits of its number. Then each operator is in one of the two menus of a chat: in the one
to unfollow when the chat follows it, else in the one to follow. Its button takes it to the other
menu.
-/

namespace Sentinel.Handlers

open Python

/-! ### What an update stores -/

/-- The ids that an update adds to the subscriptions of a chat. -/
def Update.Stores (update : Update) (id : String) : Prop :=
  match update with
  | .followText _ text count => ∃ validIds,
      validNodeOperatorIds count (parseNodeOperatorIds text) = some (validIds, []) ∧ id ∈ validIds
  | .followButton _ data count => id = removePrefix data followOperatorPrefix
      ∧ ∃ validIds, validNodeOperatorIds count [id] = some (validIds, []) ∧ validIds ≠ []
  | _ => False

/-- The ids that the chats follow. -/
def Stored (app : Application) (id : String) : Prop :=
  ∃ c, id ∈ (app.subscriptions c).ids

/-- Following stores the ids of the list. -/
theorem stored_foldl_followOne {app : Application} {chatId : ℤ} {ids : List String} {id : String}
    (h : Stored (ids.foldl (followOne chatId) app) id) :
  Stored app id ∨ id ∈ ids
  := by
  obtain ⟨c, hmem⟩ := h
  rcases ((gains_foldl_followOne app chatId ids).subscriptions c id).mp hmem with hmem | hmem
  · apply Or.inr hmem.2
  · apply Or.inl ⟨c, hmem⟩

/-- Unfollowing stores nothing. -/
theorem stored_unfollowOne {app : Application} {chatId : ℤ} {nodeOperatorId id : String}
    (h : Stored (unfollowOne chatId app nodeOperatorId) id) :
  Stored app id
  := by
  obtain ⟨c, hmem⟩ := h
  change id ∈ ((app.setSubscriptions chatId _).subscriptions c).ids at hmem
  rw [Application.subscriptions_setSubscriptions] at hmem
  split at hmem
  · use chatId, (NodeOperatorSubscriptions.mem_ids_unfollow.mp hmem).2
  · use c

theorem stored_foldl_unfollowOne {app : Application} {chatId : ℤ} {ids : List String}
    {id : String} (h : Stored (ids.foldl (unfollowOne chatId) app) id) :
  Stored app id
  := by
  induction ids generalizing app with
  | nil => apply h
  | cons nodeOperatorId ids ih => apply stored_unfollowOne (ih h)

theorem stored_touch {app : Application} (chatId : ℤ) {id : String}
    (h : Stored (app.touch chatId) id) :
  Stored app id
  := by
  obtain ⟨c, hmem⟩ := h
  rw [Application.subscriptions_touch] at hmem
  use c

/-- A text changes nothing, or all of its ids are valid and followed. -/
theorem followNodeOperatorMessage_result {texts : Texts} {count : String → Option ℤ}
    {app : Application} {chatId : ℤ} {text : String} {result : String × Application}
    (h : followNodeOperatorMessage texts count app chatId text = some result) :
  result.2 = app ∨ ∃ validIds,
    validNodeOperatorIds count (parseNodeOperatorIds text) = some (validIds, [])
      ∧ result.2 = validIds.foldl (followOne chatId) app
  := by
  rw [followNodeOperatorMessage] at h
  split at h
  · obtain rfl := Option.some.inj h
    apply Or.inl rfl
  · obtain ⟨⟨validIds, invalidIds⟩, hvalid, h⟩ := Option.bind_eq_some_iff.mp h
    simp only at h
    split at h <;> obtain rfl := Option.some.inj h
    · apply Or.inr ⟨_, hvalid, rfl⟩
    · apply Or.inr ⟨_, hvalid, rfl⟩
    · apply Or.inl rfl
    · apply Or.inl rfl

/-- A button changes nothing, or its id is valid and followed. -/
theorem followNodeOperatorButton_result {texts : Texts} {count : String → Option ℤ}
    {app : Application} {chatId : ℤ} {data : String} {result : String × Application}
    (h : followNodeOperatorButton texts count app chatId data = some result) :
  result.2 = app ∨ ∃ validIds,
    validNodeOperatorIds count [removePrefix data followOperatorPrefix] = some (validIds, [])
      ∧ validIds ≠ []
      ∧ result.2 = followOne chatId app (removePrefix data followOperatorPrefix)
  := by
  obtain ⟨⟨validIds, invalidIds⟩, hvalid, h⟩ := Option.bind_eq_some_iff.mp h
  simp only at h
  split at h
  next hids =>
      obtain rfl := Option.some.inj h
      obtain ⟨hne, rfl⟩ := hids
      apply Or.inr ⟨validIds, hvalid, hne, rfl⟩
  next =>
      obtain rfl := Option.some.inj h
      apply Or.inl rfl

/-- A migration of a chat stores nothing. -/
theorem stored_migrate {app : Application} {oldChatId newChatId : ℤ} (hne : oldChatId ≠ newChatId)
    {id : String} (h : Stored (migrate app oldChatId newChatId) id) :
  Stored app id
  := by
  obtain ⟨c, hmem⟩ := h
  rw [migrate, subscriptions_repair] at hmem
  change id ∈ ((migrateChatSubscriptions app oldChatId newChatId).subscriptions c).ids at hmem
  rcases ((mem_ids_migrateChatSubscriptions hne).mp hmem).2 with hmem | ⟨-, hmem⟩
  · use c
  · use oldChatId

/-- Whatever is stored after an update was stored before it or is added by it. -/
theorem stored_handle {texts : Texts} {app : Application} {update : Update}
    (hproper : update.Proper) {id : String} (h : Stored (handle texts app update) id) :
  Stored app id ∨ update.Stores id
  := by
  cases update with
  | followText chatId text count =>
      rw [handle] at h
      cases hresult : followNodeOperatorMessage texts count app chatId text with
      | none =>
          rw [hresult] at h
          apply Or.inl h
      | some result =>
          rw [hresult] at h
          rcases followNodeOperatorMessage_result hresult with heq | ⟨validIds, hvalid, heq⟩
          · rw [Option.map_some, Option.getD_some, heq] at h
            apply Or.inl h
          · rw [Option.map_some, Option.getD_some, heq] at h
            apply (stored_foldl_followOne h).imp_right
            intro hmem
            use validIds
  | followButton chatId data count =>
      rw [handle] at h
      cases hresult : followNodeOperatorButton texts count app chatId data with
      | none =>
          rw [hresult] at h
          apply Or.inl h
      | some result =>
          rw [hresult] at h
          rcases followNodeOperatorButton_result hresult with heq | ⟨validIds, hvalid, hne, heq⟩
          · rw [Option.map_some, Option.getD_some, heq] at h
            apply Or.inl h
          · rw [Option.map_some, Option.getD_some, heq] at h
            have hfold : Stored ([removePrefix data followOperatorPrefix].foldl
              (followOne chatId) app) id := h
            apply (stored_foldl_followOne hfold).imp_right
            intro hmem
            rw [List.mem_singleton] at hmem
            subst hmem
            use rfl, validIds
  | unfollowText chatId text =>
      left
      rw [handle, unfollowNodeOperatorMessage] at h
      split at h
      · apply h
      · apply stored_touch chatId
        simp only at h
        split at h
        · apply stored_unfollowOne h
        · apply stored_foldl_unfollowOne h
        · apply h
        · apply h
  | unfollowButton chatId data =>
      left
      rw [handle, unfollowNodeOperatorButton] at h
      split at h
      · apply stored_touch chatId (stored_unfollowOne h)
      · apply stored_touch chatId h
  | migration chatId migrateTo migrateFrom =>
      left
      rw [handle, chatMigration] at h
      cases hids : migrationIds chatId migrateTo migrateFrom with
      | none =>
          rw [hids] at h
          apply h
      | some ids =>
          rw [hids] at h
          apply stored_migrate (hproper ids hids) h
  | other chatId => apply Or.inl (stored_touch chatId h)

/-! ### Canonical ids -/

/-- The digits of a number that are not too many to be read back. -/
def IsCanonical (id : String) : Prop :=
  ∃ k : ℕ, k < 10 ^ maxStrDigits ∧ id = toString k

/-- A numeral is less than the power of ten of its length. -/
theorem numeralFrom_lt {cs : List Char} {n k : ℕ} (h : numeralFrom n cs = some k) :
  k < (n + 1) * 10 ^ cs.length
  := by
  induction cs generalizing n with
  | nil =>
      obtain rfl := Option.some.inj h
      simp
  | cons c cs ih =>
      obtain ⟨d, hd, hrest⟩ := Option.bind_eq_some_iff.mp h
      have hlt : d < 10 := by
        obtain ⟨first, hfind, rfl⟩ := Option.map_eq_some_iff.mp hd
        have hbounds := List.find?_some hfind
        rw [decide_eq_true_iff] at hbounds
        omega
      calc k < (10 * n + d + 1) * 10 ^ cs.length := ih hrest
        _ ≤ (n + 1) * 10 * 10 ^ cs.length := by
            apply Nat.mul_le_mul_right
            omega
        _ = (n + 1) * 10 ^ (c :: cs).length := by
            rw [List.length_cons, Nat.pow_succ, Nat.mul_assoc, Nat.mul_comm 10]

/-- The number of a text of digits has few digits. -/
theorem lt_of_int {text : String} {number : ℤ} (hdigit : isDigit text)
    (h : int text = some number) :
  ∃ k : ℕ, k < 10 ^ maxStrDigits ∧ number = (k : ℤ) ∧ numeral text = some k
  := by
  obtain ⟨k, hk, rfl⟩ := numeral_of_int hdigit h
  use k
  refine ⟨?_, rfl, hk⟩
  rw [int_eq_numeral (isPlain_of_isDigit hdigit)] at h
  split at h
  next => cases h
  next hlength =>
      rw [numeral] at hk
      split at hk
      next => cases hk
      next =>
          have hlt := numeralFrom_lt hk
          rw [Nat.zero_add, Nat.one_mul] at hlt
          apply lt_of_lt_of_le hlt
          apply Nat.pow_le_pow_right (by decide)
          omega

/-- The valid ids are canonical. -/
theorem isCanonical_of_valid {count : String → Option ℤ} {ids validIds invalidIds : List String}
    (h : validNodeOperatorIds count ids = some (validIds, invalidIds)) :
  ∀ id ∈ validIds, IsCanonical id
  := by
  induction ids generalizing validIds invalidIds with
  | nil =>
      obtain ⟨rfl, rfl⟩ := Prod.mk.inj (Option.some.inj h)
      simp
  | cons nodeOperatorId ids ih =>
      rw [validNodeOperatorIds] at h
      split at h
      next hdigit =>
          obtain ⟨number, hnumber, h⟩ := Option.bind_eq_some_iff.mp h
          obtain ⟨n, -, h⟩ := Option.bind_eq_some_iff.mp h
          obtain ⟨⟨valid, invalid⟩, hrest, h⟩ := Option.bind_eq_some_iff.mp h
          simp only at h
          split at h
          · obtain ⟨rfl, rfl⟩ := Prod.mk.inj (Option.some.inj h)
            obtain ⟨k, hk, rfl, -⟩ := lt_of_int hdigit hnumber
            intro id hid
            rcases List.mem_cons.mp hid with rfl | hid
            · use k, hk
              rfl
            · apply ih hrest id hid
          · obtain ⟨rfl, rfl⟩ := Prod.mk.inj (Option.some.inj h)
            apply ih hrest
      next =>
          obtain ⟨⟨valid, invalid⟩, hrest, h⟩ := Option.bind_eq_some_iff.mp h
          obtain ⟨rfl, rfl⟩ := Prod.mk.inj (Option.some.inj h)
          apply ih hrest

/-- An update whose button, if it is one, is of a menu. -/
def Update.Pressable : Update → Prop
  | .followButton _ data _ => ∃ id : ℕ, data = Menu.follow.operatorPrefix ++ toString id
  | .unfollowButton _ data => ∃ id : ℕ, data = Menu.unfollow.operatorPrefix ++ toString id
  | _ => True

/-- Such an update stores canonical ids. -/
theorem isCanonical_of_stores {update : Update} (hpressable : update.Pressable) {id : String}
    (h : update.Stores id) :
  IsCanonical id
  := by
  cases update with
  | followText chatId text count =>
      obtain ⟨validIds, hvalid, hmem⟩ := h
      apply isCanonical_of_valid hvalid id hmem
  | followButton chatId data count =>
      obtain ⟨k, rfl⟩ := hpressable
      obtain ⟨hid, validIds, hvalid, -⟩ := h
      rw [Menu.operatorPrefix, removePrefix_append] at hid
      subst hid
      have hdigit := isDigit_of_numeral (numeral_toString k)
      cases hint : int (toString k) with
      | none =>
          rw [validNodeOperatorIds_eq_none (List.mem_singleton_self _) hdigit hint] at hvalid
          cases hvalid
      | some number =>
          obtain ⟨k', hk', -, hnumeral⟩ := lt_of_int hdigit hint
          rw [numeral_toString] at hnumeral
          obtain rfl := Option.some.inj hnumeral
          use k
  | unfollowText | unfollowButton | migration | other => cases h

/-- The updates whose menus are considered: proper migrations and buttons of menus. -/
def Considered (updates : List Update) : Prop :=
  ∀ update ∈ updates, update.Proper ∧ update.Pressable

/-- Whatever is stored after such updates is canonical. -/
theorem isCanonical_of_stored {texts : Texts} {updates : List Update}
    (h : Considered updates) {id : String}
    (hstored : Stored (updates.foldl (handle texts) .empty) id) :
  IsCanonical id
  := by
  induction updates using List.reverseRecOn with
  | nil =>
      obtain ⟨c, hmem⟩ := hstored
      simp [Application.subscriptions, Application.empty, NodeOperatorSubscriptions.empty] at hmem
  | append_singleton updates update ih =>
      obtain ⟨hproper, hpressable⟩ := h update (List.mem_append_right _ List.mem_cons_self)
      rw [List.foldl_append] at hstored
      rcases stored_handle hproper hstored with hbefore | hstores
      · apply ih _ hbefore
        intro update' hmem
        apply h update' (List.mem_append_left _ hmem)
      · apply isCanonical_of_stores hpressable hstores

/-! ### Sorted ids -/

theorem idSortKey_toString {k : ℕ} (h : k < 10 ^ maxStrDigits) :
  idSortKey (toString k) = some (toLex (.inl (k : ℤ)))
  := by
  rw [idSortKey, if_pos (isDigit_of_numeral (numeral_toString k)), int_toString h]
  rfl

/-- Canonical ids are sorted by their numbers. -/
theorem sortNodeOperatorIds_of_canonical (order : SetOrder String) {ids : Finset String}
    (h : ∀ id ∈ ids, IsCanonical id) :
  ∃ numbers : List ℕ, sortNodeOperatorIds order ids = some (numbers.map toString)
    ∧ numbers.Pairwise (· < ·)
    ∧ ∀ k : ℕ, k ∈ numbers ↔ toString k ∈ ids
  := by
  have hids : ∃ visited : List ℕ, visited.map toString = order.toList ids := by
    use (order.toList ids).map fun id => (numeral id).getD 0
    rw [List.map_map, List.map_congr_left, List.map_id]
    intro id hid
    obtain ⟨k, -, rfl⟩ := h id ((order.mem_toList ids id).mp hid)
    rw [Function.comp_apply, numeral_toString]
    rfl
  obtain ⟨visited, hvisited⟩ := hids
  have hmem : ∀ k : ℕ, k ∈ visited ↔ toString k ∈ ids := by
    intro k
    rw [← order.mem_toList, ← hvisited, List.mem_map_of_injective toString_injective]
  have hsmall : ∀ k ∈ visited, k < 10 ^ maxStrDigits := by
    intro k hk
    obtain ⟨k', hk', heq⟩ := h (toString k) ((hmem k).mp hk)
    rwa [toString_injective heq]
  have hkeyed : (order.toList ids).mapM (fun id => (idSortKey id).map fun key => (key, id))
      = some (visited.map fun k : ℕ => (toLex (.inl (k : ℤ)), toString k)) := by
    apply Loops.mapM_eq_some_iff.mpr
    rw [← hvisited, List.map_map, List.map_map]
    apply List.map_congr_left
    intro k hk
    rw [Function.comp_apply, idSortKey_toString (hsmall k hk)]
    rfl
  have hsorted : sortBy Prod.fst
        (visited.map fun k : ℕ => (toLex (.inl (k : ℤ) : ℤ ⊕ String), toString k))
      = (sortBy id visited).map fun k : ℕ => (toLex (.inl (k : ℤ)), toString k) := by
    symm
    apply List.map_mergeSort
    intro j _ k _
    simp
  use sortBy id visited
  refine ⟨?_, ?_, ?_⟩
  · rw [sortNodeOperatorIds, hkeyed, Option.bind_eq_bind, Option.bind_some, hsorted, List.map_map]
    rfl
  · have hnodup : (sortBy id visited).Nodup := by
      rw [(sortBy_perm id visited).nodup_iff]
      apply List.Nodup.of_map toString
      rw [hvisited]
      apply order.nodup
    apply ((orderedBy_sortBy id visited).and hnodup).imp
    rintro j k ⟨hle, hne⟩
    apply lt_of_le_of_ne hle hne
  · intro k
    rw [mem_sortBy, hmem]

/-! ### Prompts -/

/-- What the module answers while a prompt is built, when nothing raises. -/
structure MenuReads.Answers (reads : MenuReads) (options : List NodeOperatorOption) : Prop where
  following : ∀ n, (reads.following n).isSome
  label : ∀ n, (reads.label n).isSome
  options : reads.nodeOperatorOptions = some options

section Prompts

variable {texts : MenuTexts} {order : SetOrder String} {reads : MenuReads}
  {options : List NodeOperatorOption} {ids : Finset String}

/-- Reading each member of a list succeeds when each of them can be read. -/
theorem exists_mapM_of_isSome {α β : Type*} {f : α → Option β} {l : List α}
    (h : ∀ a ∈ l, (f a).isSome) :
  ∃ read, l.mapM f = some read
  := by
  apply Option.ne_none_iff_exists'.mp
  rw [ne_eq, Loops.mapM_eq_none_iff]
  rintro ⟨a, ha, hnone⟩
  have hsome := h a ha
  rw [hnone] at hsome
  cases hsome

/-- The text of a prompt is built. -/
theorem isSome_formatFollowing (order : SetOrder String) (hanswers : reads.Answers options)
    (h : ∀ id ∈ ids, IsCanonical id) :
  ∃ following, formatFollowing order reads ids = some following
  := by
  obtain ⟨numbers, hsorted, -, hmem⟩ := sortNodeOperatorIds_of_canonical order h
  have hlabels : ∃ labels, (numbers.map toString).mapM (fun nodeOperatorId =>
      if isDigit nodeOperatorId then (int nodeOperatorId).bind reads.following
      else some ("#" ++ nodeOperatorId)) = some labels := by
    apply exists_mapM_of_isSome
    intro id hid
    obtain ⟨k, hk, rfl⟩ := List.mem_map.mp hid
    obtain ⟨k', hk', heq⟩ := h (toString k) ((hmem k).mp hk)
    rw [heq, if_pos (isDigit_of_numeral (numeral_toString k')), int_toString hk']
    apply hanswers.following
  obtain ⟨labels, hlabels⟩ := hlabels
  rw [formatFollowing, hsorted, Option.bind_eq_bind, Option.bind_some, hlabels]
  simp only [Option.bind_some]
  split
  · exact ⟨_, rfl⟩
  · exact ⟨_, rfl⟩

/-- The menu to unfollow has the followed operators by their numbers. -/
theorem followedOperatorOptions_of_canonical (order : SetOrder String)
    (hanswers : reads.Answers options) (h : ∀ id ∈ ids, IsCanonical id) :
  ∃ followed, followedOperatorOptions order reads ids = some followed
    ∧ (followed.map NodeOperatorOption.id).Pairwise (· < ·)
    ∧ ∀ k : ℕ, k ∈ followed.map NodeOperatorOption.id ↔ toString k ∈ ids
  := by
  obtain ⟨numbers, hsorted, hascending, hmem⟩ := sortNodeOperatorIds_of_canonical order h
  have hdigits : (numbers.map toString).filter isDigit = numbers.map toString := by
    apply List.filter_eq_self.mpr
    intro id hid
    obtain ⟨k, -, rfl⟩ := List.mem_map.mp hid
    apply isDigit_of_numeral (numeral_toString k)
  let option (k : ℕ) : NodeOperatorOption := ⟨k, (reads.label k).getD ""⟩
  have hread : (numbers.map toString).mapM (fun nodeOperatorId => do
      let numericId ← int nodeOperatorId
      let label ← reads.label numericId
      return (⟨numericId.toNat, label⟩ : NodeOperatorOption)) = some (numbers.map option) := by
    apply Loops.mapM_eq_some_iff.mpr
    rw [List.map_map, List.map_map]
    apply List.map_congr_left
    intro k hk
    obtain ⟨k', hk', heq⟩ := h (toString k) ((hmem k).mp hk)
    obtain rfl := toString_injective heq
    obtain ⟨label, hlabel⟩ := Option.isSome_iff_exists.mp (hanswers.label k)
    rw [Function.comp_apply, Function.comp_apply, int_toString hk', Option.bind_eq_bind,
      Option.bind_some, hlabel]
    simp only [option, hlabel]
    rfl
  use numbers.map option
  have hids : (numbers.map option).map NodeOperatorOption.id = numbers := by
    rw [List.map_map]
    apply List.map_id
  refine ⟨?_, ?_, ?_⟩
  · rw [followedOperatorOptions, hsorted, Option.bind_eq_bind, Option.bind_some, hdigits, hread]
  · rw [hids]
    apply hascending
  · rw [hids]
    apply hmem

/-- A prompt is built on every page, with the operators of its menu. -/
theorem exists_prompt (texts : MenuTexts) (order : SetOrder String)
    (hanswers : reads.Answers options) (h : ∀ id ∈ ids, IsCanonical id) (menu : Menu) :
  ∃ shown, menu.options order reads ids = some shown
    ∧ ∀ page, ∃ text, menu.prompt texts order reads ids page
        = some (text, menu.keyboard texts.buttonBack shown page)
  := by
  obtain ⟨following, hfollowing⟩ := isSome_formatFollowing order hanswers h
  cases menu with
  | follow =>
      use options.filter fun option => toString option.id ∉ ids
      have hoptions : followOptions reads ids
          = some (options.filter fun option => toString option.id ∉ ids) := by
        rw [followOptions, hanswers.options]
        rfl
      use hoptions
      intro page
      rw [Menu.prompt, buildFollowPrompt, hoptions, hfollowing]
      split_ifs
      · exact ⟨_, rfl⟩
      · exact ⟨_, rfl⟩
  | unfollow =>
      obtain ⟨followed, hfollowed, -⟩ :=
        followedOperatorOptions_of_canonical order hanswers h
      use followed, hfollowed
      intro page
      rw [Menu.prompt, buildUnfollowPrompt, hfollowed, hfollowing]
      split_ifs
      · exact ⟨_, rfl⟩
      · exact ⟨_, rfl⟩

/-- A page of the prompt of a menu has the button of an operator. -/
def Menu.Offers (texts : MenuTexts) (order : SetOrder String) (reads : MenuReads)
    (ids : Finset String) (menu : Menu) (id : ℕ) : Prop :=
  ∃ page text keyboard, menu.prompt texts order reads ids page = some (text, keyboard)
    ∧ ∃ button ∈ keyboard.flatten, button.callbackData = menu.operatorPrefix ++ toString id

/-- The operators with a button are those of the menu. -/
theorem offers_iff_mem (hanswers : reads.Answers options) (h : ∀ id ∈ ids, IsCanonical id)
    (menu : Menu) {shown : List NodeOperatorOption}
    (hshown : menu.options order reads ids = some shown) {id : ℕ} :
  menu.Offers texts order reads ids id ↔ id ∈ shown.map NodeOperatorOption.id
  := by
  obtain ⟨shown', hshown', hprompt⟩ := exists_prompt texts order hanswers h menu
  obtain rfl := Option.some.inj (hshown'.symm.trans hshown)
  constructor
  · rintro ⟨page, text, keyboard, hpage, button, hbutton, hdata⟩
    obtain ⟨text', htext'⟩ := hprompt page
    obtain ⟨-, rfl⟩ := Prod.mk.inj (Option.some.inj (hpage.symm.trans htext'))
    have hmatching := menu.matching_operator id
    rw [← hdata] at hmatching
    rcases mem_flatten_keyboard.mp hbutton with ⟨option, hoption, rfl⟩ | hnavigation | rfl
    · apply List.mem_map.mpr
      use option, Paging.mem_of_mem_page hoption
      apply toString_injective
      apply (String.append_right_inj menu.operatorPrefix).mp hdata
    · rcases mem_navigation.mp hnavigation with ⟨-, rfl⟩ | ⟨-, rfl⟩
      all_goals
        rw [menu.matching_page] at hmatching
        cases hmatching
    · rw [backButton, menu.matching_back] at hmatching
      cases hmatching
  · intro hid
    obtain ⟨option, hoption, rfl⟩ := List.mem_map.mp hid
    obtain ⟨k, hk, hmem⟩ :=
      Paging.exists_mem_page (by decide : 0 < operatorButtonPageSize) hoption
    obtain ⟨text, htext⟩ := hprompt k
    use k, text, menu.keyboard texts.buttonBack shown' k, htext,
      operatorButton menu.operatorPrefix option
    constructor
    · apply mem_flatten_keyboard.mpr
      left
      rw [shownPage_natCast hk]
      use option, hmem
    · rfl

/-- The menu to unfollow has the operators that are followed. -/
theorem offers_unfollow_iff (hanswers : reads.Answers options)
    (h : ∀ id ∈ ids, IsCanonical id) {id : ℕ} :
  Menu.unfollow.Offers texts order reads ids id ↔ toString id ∈ ids
  := by
  obtain ⟨followed, hfollowed, -, hmem⟩ :=
    followedOperatorOptions_of_canonical order hanswers h
  rw [offers_iff_mem hanswers h .unfollow hfollowed, hmem]

/-- The menu to follow has the other operators of the module. -/
theorem offers_follow_iff (hanswers : reads.Answers options)
    (h : ∀ id ∈ ids, IsCanonical id) {id : ℕ} :
  Menu.follow.Offers texts order reads ids id
    ↔ id ∈ options.map NodeOperatorOption.id ∧ toString id ∉ ids
  := by
  have hoptions : Menu.follow.options order reads ids
      = some (options.filter fun option => toString option.id ∉ ids) := by
    rw [Menu.options, followOptions, hanswers.options]
    rfl
  rw [offers_iff_mem hanswers h .follow hoptions]
  simp only [List.mem_map, List.mem_filter, decide_eq_true_eq]
  constructor
  · rintro ⟨option, ⟨hoption, hnot⟩, rfl⟩
    use ⟨option, hoption, rfl⟩
  · rintro ⟨⟨option, hoption, rfl⟩, hnot⟩
    use option

end Prompts

/-! ### Pressing the buttons -/

/-- The operators that a chat follows. -/
def followedIds (app : Application) (chatId : ℤ) : Finset String :=
  (app.subscriptions chatId).ids

/-- The button of an operator of the module follows it. -/
theorem followNodeOperatorButton_of_lt (texts : Texts) (app : Application) (chatId : ℤ) {id : ℕ}
    (hid : id < 10 ^ maxStrDigits) {n : ℤ} (hn : (id : ℤ) < n) :
  followNodeOperatorButton texts (fun _ => some n) app chatId
      (Menu.follow.operatorPrefix ++ toString id)
    = some (texts.nodeOperatorFollowed (toString id), followOne chatId app (toString id))
  := by
  have hdigit := isDigit_of_numeral (numeral_toString id)
  have hvalid : isValidOperatorId n id = true := by
    rw [isValidOperatorId, decide_eq_true_iff]
    use Int.natCast_nonneg id
  rw [followNodeOperatorButton, Menu.operatorPrefix, removePrefix_append]
  simp only [validNodeOperatorIds, hdigit, if_true, int_toString hid, Option.bind_eq_bind,
    Option.bind_some, hvalid, Option.pure_def, ne_eq, reduceCtorEq, not_false_eq_true, and_self]

/-- The button of a followed operator unfollows it. -/
theorem unfollowNodeOperatorButton_of_mem (texts : Texts) (app : Application) (chatId : ℤ)
    {id : ℕ} (hid : toString id ∈ followedIds app chatId) :
  unfollowNodeOperatorButton texts app chatId (Menu.unfollow.operatorPrefix ++ toString id)
    = (texts.nodeOperatorUnfollowed (toString id),
        unfollowOne chatId (app.touch chatId) (toString id))
  := by
  have hunfollow :
      (((app.touch chatId).subscriptions chatId).unfollow (toString id)).1 = true := by
    rw [followedIds] at hid
    rw [Application.subscriptions_touch, NodeOperatorSubscriptions.unfollow, if_pos hid]
  rw [unfollowNodeOperatorButton, Menu.operatorPrefix, removePrefix_append]
  simp only [hunfollow, if_true]

/-- Following adds the id to those of the chat. -/
theorem followedIds_followOne (app : Application) (chatId c : ℤ) (id : String) :
  followedIds (followOne chatId app id) c
    = if c = chatId then insert id (followedIds app chatId) else followedIds app c
  := by
  rw [followedIds, followOne, Application.subscriptions_setSubscriptions]
  split_ifs <;> rfl

/-- Unfollowing removes the id from those of the chat. -/
theorem followedIds_unfollowOne (app : Application) (chatId c : ℤ) (id : String) :
  followedIds (unfollowOne chatId (app.touch chatId) id) c
    = if c = chatId then (followedIds app chatId).erase id else followedIds app c
  := by
  have hsubscriptions : followedIds (unfollowOne chatId (app.touch chatId) id) c
      = (((app.touch chatId).setSubscriptions chatId
          (((app.touch chatId).subscriptions chatId).unfollow id).2).subscriptions c).ids := rfl
  rw [hsubscriptions, Application.subscriptions_setSubscriptions, Application.subscriptions_touch,
    Application.subscriptions_touch]
  split_ifs
  · ext id'
    rw [NodeOperatorSubscriptions.mem_ids_unfollow, Finset.mem_erase]
    rfl
  · rfl

/-! ### The two menus -/

section Menus

variable (texts : MenuTexts) (replies : Texts) (order : SetOrder String) (reads : MenuReads)
  (options : List NodeOperatorOption)

/-- Pressing the button of an operator changes which menu has it, and nothing else. -/
structure Moves (ids ids' : Finset String) (id : ℕ) (toFollow toUnfollow : Prop) : Prop where
  follow : Menu.follow.Offers texts order reads ids' id ↔ toFollow
  unfollow : Menu.unfollow.Offers texts order reads ids' id ↔ toUnfollow
  others : ∀ id' ≠ id, ∀ menu : Menu,
    menu.Offers texts order reads ids' id' ↔ menu.Offers texts order reads ids id'

/-- The two menus of a chat divide the operators. -/
structure MenusDivide (app : Application) (chatId : ℤ) : Prop where
  /-- every operator of the module is in exactly one of them -/
  exclusive : ∀ option ∈ options,
    Xor (Menu.follow.Offers texts order reads (followedIds app chatId) option.id)
      (Menu.unfollow.Offers texts order reads (followedIds app chatId) option.id)
  /-- everything that is followed can be unfollowed -/
  followed : ∀ text ∈ followedIds app chatId, ∃ id : ℕ, text = toString id
    ∧ Menu.unfollow.Offers texts order reads (followedIds app chatId) id
  /-- pressing a button to follow follows the operator and takes it to the other menu -/
  pressFollow : ∀ id : ℕ, Menu.follow.Offers texts order reads (followedIds app chatId) id →
    id < 10 ^ maxStrDigits → ∀ n : ℤ, (id : ℤ) < n →
    ∃ app', followNodeOperatorButton replies (fun _ => some n) app chatId
        (Menu.follow.operatorPrefix ++ toString id)
          = some (replies.nodeOperatorFollowed (toString id), app')
      ∧ Moves texts order reads (followedIds app chatId) (followedIds app' chatId) id False True
      ∧ ∀ c ≠ chatId, followedIds app' c = followedIds app c
  /-- pressing a button to unfollow unfollows the operator and takes it back -/
  pressUnfollow : ∀ id : ℕ, Menu.unfollow.Offers texts order reads (followedIds app chatId) id →
    ∃ app', unfollowNodeOperatorButton replies app chatId
        (Menu.unfollow.operatorPrefix ++ toString id)
          = (replies.nodeOperatorUnfollowed (toString id), app')
      ∧ Moves texts order reads (followedIds app chatId) (followedIds app' chatId) id
          (id ∈ options.map NodeOperatorOption.id) False
      ∧ ∀ c ≠ chatId, followedIds app' c = followedIds app c

variable {texts replies order reads options}

/-- Of canonical ids, a change of one moves its operator. -/
theorem moves_of_canonical (hanswers : reads.Answers options) {ids ids' : Finset String}
    (h : ∀ text ∈ ids, IsCanonical text) (h' : ∀ text ∈ ids', IsCanonical text) {id : ℕ}
    (hothers : ∀ text ≠ toString id, text ∈ ids' ↔ text ∈ ids) {toFollow toUnfollow : Prop}
    (hfollow : id ∈ options.map NodeOperatorOption.id ∧ toString id ∉ ids' ↔ toFollow)
    (hunfollow : toString id ∈ ids' ↔ toUnfollow) :
  Moves texts order reads ids ids' id toFollow toUnfollow
  where
  follow := (offers_follow_iff hanswers h').trans hfollow
  unfollow := (offers_unfollow_iff hanswers h').trans hunfollow
  others := by
    intro id' hne menu
    have hsame := hothers (toString id') fun heq => hne (toString_injective heq)
    cases menu with
    | follow => rw [offers_follow_iff hanswers h', offers_follow_iff hanswers h, hsame]
    | unfollow => rw [offers_unfollow_iff hanswers h', offers_unfollow_iff hanswers h, hsame]

/-- Following an operator takes it to the menu to unfollow. -/
theorem moves_insert (hanswers : reads.Answers options) {ids : Finset String}
    (h : ∀ text ∈ ids, IsCanonical text) {id : ℕ} (hid : id < 10 ^ maxStrDigits) :
  Moves texts order reads ids (insert (toString id) ids) id False True
  := by
  apply moves_of_canonical hanswers h
  · intro text htext
    rcases Finset.mem_insert.mp htext with rfl | htext
    · use id, hid
    · apply h text htext
  · intro text hne
    apply Finset.mem_insert.trans (or_iff_right hne)
  · simp
  · simp

/-- Unfollowing an operator takes it to the menu to follow, if the module has it. -/
theorem moves_erase (hanswers : reads.Answers options) {ids : Finset String}
    (h : ∀ text ∈ ids, IsCanonical text) (id : ℕ) :
  Moves texts order reads ids (ids.erase (toString id)) id
    (id ∈ options.map NodeOperatorOption.id) False
  := by
  apply moves_of_canonical hanswers h
  · intro text htext
    apply h text (Finset.mem_of_mem_erase htext)
  · intro text hne
    apply Finset.mem_erase.trans (and_iff_right hne)
  · simp
  · simp

/-- After any updates whose buttons are of menus, the two menus of every chat divide the
operators. -/
theorem menusDivide_of_updates {updates : List Update} (hupdates : Considered updates)
    (hanswers : reads.Answers options) (chatId : ℤ) :
  MenusDivide texts replies order reads options (updates.foldl (handle replies) .empty) chatId
  := by
  have hcanonical : ∀ text ∈ followedIds (updates.foldl (handle replies) .empty) chatId,
      IsCanonical text := by
    intro text htext
    apply isCanonical_of_stored hupdates ⟨chatId, htext⟩
  constructor
  · intro option hoption
    rw [offers_follow_iff hanswers hcanonical, offers_unfollow_iff hanswers hcanonical]
    by_cases hmem : toString option.id
        ∈ followedIds (updates.foldl (handle replies) .empty) chatId
    · apply Or.inr ⟨hmem, fun hboth => hboth.2 hmem⟩
    · apply Or.inl ⟨⟨List.mem_map_of_mem hoption, hmem⟩, hmem⟩
  · intro text htext
    obtain ⟨id, -, rfl⟩ := hcanonical text htext
    use id, rfl
    apply (offers_unfollow_iff hanswers hcanonical).mpr htext
  · intro id _ hid n hn
    use followOne chatId (updates.foldl (handle replies) .empty) (toString id)
    use followNodeOperatorButton_of_lt _ _ _ hid hn
    constructor
    · rw [followedIds_followOne, if_pos rfl]
      apply moves_insert hanswers hcanonical hid
    · intro c hc
      rw [followedIds_followOne, if_neg hc]
  · intro id hoffers
    have hmem := (offers_unfollow_iff hanswers hcanonical).mp hoffers
    use unfollowOne chatId ((updates.foldl (handle replies) .empty).touch chatId) (toString id)
    use unfollowNodeOperatorButton_of_mem _ _ _ hmem
    constructor
    · rw [followedIds_unfollowOne, if_pos rfl]
      apply moves_erase hanswers hcanonical
    · intro c hc
      rw [followedIds_unfollowOne, if_neg hc]

end Menus

/-! ### A module with three operators -/

/-- The answers of a module with three operators. -/
def threeReads : MenuReads where
  following n := some ("#" ++ toString n)
  label n := some ("#" ++ toString n)
  nodeOperatorOptions := some [⟨0, "#0"⟩, ⟨1, "#1"⟩, ⟨2, "#2"⟩]

/-- The texts of a module. -/
def threeTexts : MenuTexts where
  buttonBack := "Back"
  followNodeOperatorText := "Follow"
  followNodeOperatorFollowing := id
  unfollowNodeOperatorText := "Unfollow"
  unfollowNodeOperatorFollowing := id
  unfollowNodeOperatorNotFollowing := "None"

/-- A chat follows an operator by a text and another one by a button, and unfollows the first
one. -/
def pressed : List Update :=
  [ .followText 1 "#1" fun _ => some 3
  , .followButton 1 "follow_no:2" fun _ => some 3
  , .unfollowButton 1 "unfollow_no:1" ]

theorem menusDivide_pressed :
  MenusDivide threeTexts ⟨"", id, "", id⟩ .sorted threeReads
    [⟨0, "#0"⟩, ⟨1, "#1"⟩, ⟨2, "#2"⟩]
    (pressed.foldl (handle ⟨"", id, "", id⟩) .empty) 1
  := by
  have hanswers : threeReads.Answers [⟨0, "#0"⟩, ⟨1, "#1"⟩, ⟨2, "#2"⟩] := by
    constructor
    · intro n
      rfl
    · intro n
      rfl
    · rfl
  have hupdates : Considered pressed := by
    intro update hmem
    simp only [pressed, List.mem_cons, List.not_mem_nil, or_false] at hmem
    rcases hmem with rfl | rfl | rfl
    · use trivial
      trivial
    · use trivial, 2
      rfl
    · use trivial, 1
      rfl
  apply menusDivide_of_updates hupdates hanswers

end Sentinel.Handlers
