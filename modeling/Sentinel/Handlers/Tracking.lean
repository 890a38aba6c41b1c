import Sentinel.Storage.BotStorage

/-!
# Tracking the chats of the bot

Telegram tells the bot how its membership of a chat changes. The bot keeps the chats of which it
is a member in three sets, by the type of the chat. A member that is restricted may or may not be
in the chat. An update that only changes this is ignored, as its status is the same.
-/

namespace Sentinel.Handlers

/-! ### Members of a chat -/

inductive MemberStatus where
  | owner
  | administrator
  | member
  | restricted
  | left
  | banned
deriving DecidableEq

/-- A member of a chat. Only a restricted member has the attribute `is_member`. -/
inductive ChatMember where
  | owner
  | administrator
  | member
  | restricted (isMember : Bool)
  | left
  | banned
deriving DecidableEq

namespace ChatMember

def status : ChatMember → MemberStatus
  | owner => .owner
  | administrator => .administrator
  | member => .member
  | restricted _ => .restricted
  | left => .left
  | banned => .banned

/-- The attribute `is_member`. -/
def isMember : ChatMember → Option Bool
  | restricted b => some b
  | _ => none

/-- A member that is in the chat. -/
def IsIn : ChatMember → Prop
  | owner | administrator | member => True
  | restricted b => b
  | left | banned => False

instance (m : ChatMember) : Decidable m.IsIn :=
  match m with
  | owner | administrator | member => isTrue trivial
  | restricted b => inferInstanceAs (Decidable (b = true))
  | left | banned => isFalse id

end ChatMember

/-- The types of chats. -/
inductive ChatType where
  | privateChat
  | group
  | supergroup
  | channel
deriving DecidableEq

/-- A chat. -/
structure Chat where
  id : ℤ
  type : ChatType
deriving DecidableEq

/-- The change of a member of a chat. -/
structure ChatMemberUpdated where
  chat : Chat
  oldChatMember : ChatMember
  newChatMember : ChatMember
deriving DecidableEq

/-- The old and the new value of an attribute of a member, if they differ. -/
def difference {α : Type} [DecidableEq α] (field : ChatMember → α)
    (update : ChatMemberUpdated) : Option (α × α) :=
  if field update.oldChatMember ≠ field update.newChatMember then
    some (field update.oldChatMember, field update.newChatMember)
  else none

/-! ### Tracking -/

/-- Whether the bot was a member of the chat and whether it is, unless its status is the same. -/
def extractStatusChange (update : ChatMemberUpdated) : Option (Bool × Bool) :=
  let (oldIsMember, newIsMember) := (difference ChatMember.isMember update).getD (none, none)
  match difference ChatMember.status update with
  | none => none
  | some (oldStatus, newStatus) =>
      let wasMember := oldStatus ∈ [MemberStatus.member, .owner, .administrator]
        ∨ oldStatus = .restricted ∧ oldIsMember = some true
      let isMember := newStatus ∈ [MemberStatus.member, .owner, .administrator]
        ∨ newStatus = .restricted ∧ newIsMember = some true
      some (wasMember, isMember)

/-- Add a chat that the bot joined to a set, or remove one that it left. -/
def trackIn (chats : ChatIdSet) (chatId : ℤ) (wasMember isMember : Bool) : ChatIdSet :=
  if !wasMember && isMember then chats.add chatId
  else if wasMember && !isMember then chats.remove chatId
  else chats

/-- Track the chat of an update. -/
def trackChats (storage : BotStorage) (update : ChatMemberUpdated) : BotStorage :=
  match extractStatusChange update with
  | none => storage
  | some (wasMember, isMember) =>
      let chat := update.chat
      match chat.type with
      | .privateChat =>
          { storage with users := trackIn storage.users chat.id wasMember isMember }
      | .group | .supergroup =>
          { storage with groups := trackIn storage.groups chat.id wasMember isMember }
      | .channel =>
          { storage with channels := trackIn storage.channels chat.id wasMember isMember }

/-- The set of the chats of a type. -/
def chatSet (storage : BotStorage) : ChatType → ChatIdSet
  | .privateChat => storage.users
  | .group | .supergroup => storage.groups
  | .channel => storage.channels

/-- A chat is in its set exactly when the bot is a member of it. -/
def Tracks (storage : BotStorage) (chat : Chat) (m : ChatMember) : Prop :=
  chat.id ∈ (chatSet storage chat.type).values ↔ m.IsIn

/-! ### One update -/

/-- A restricted member joins or leaves the chat and stays restricted. -/
def StaysRestricted (update : ChatMemberUpdated) : Prop :=
  ∃ b, update.oldChatMember = .restricted b ∧ update.newChatMember = .restricted !b

/-- An update is ignored when the status is the same. Otherwise it tells whether the bot was a
member of the chat and whether it is. -/
theorem extractStatusChange_eq (update : ChatMemberUpdated) :
  extractStatusChange update
    = if update.oldChatMember.status = update.newChatMember.status then none
      else some (decide update.oldChatMember.IsIn, decide update.newChatMember.IsIn)
  := by
  obtain ⟨chat, old, new⟩ := update
  have hrestricted : ∀ b, decide ((ChatMember.restricted b).IsIn) = b := by
    intro b
    cases b <;> rfl
  cases old <;> cases new <;>
    simp [extractStatusChange, difference, ChatMember.status, ChatMember.isMember, hrestricted] <;>
    simp [ChatMember.IsIn]

/-- Two members of the same status are both in the chat or both not in it, unless a restricted
one joined or left. -/
theorem isIn_iff_of_status_eq {update : ChatMemberUpdated}
    (h : update.oldChatMember.status = update.newChatMember.status) :
  (update.oldChatMember.IsIn ↔ update.newChatMember.IsIn) ↔ ¬ StaysRestricted update
  := by
  obtain ⟨chat, old, new⟩ := update
  cases old <;> cases new <;> simp [ChatMember.status] at h <;>
    simp [StaysRestricted, ChatMember.IsIn]
  next b b' => cases b <;> cases b' <;> simp

/-- A member that stays restricted has the same status. -/
theorem StaysRestricted.status_eq {update : ChatMemberUpdated} (h : StaysRestricted update) :
  update.oldChatMember.status = update.newChatMember.status
  := by
  obtain ⟨b, hold, hnew⟩ := h
  rw [hold, hnew]
  rfl

/-- Whether a chat is in a set after the bot joined or left it. -/
theorem mem_trackIn {chats : ChatIdSet} {chatId : ℤ} {wasMember isMember : Bool}
    (h : chatId ∈ chats.values ↔ wasMember) :
  chatId ∈ (trackIn chats chatId wasMember isMember).values ↔ isMember
  := by
  rw [trackIn]
  cases wasMember <;> cases isMember <;> simp [ChatIdSet.add, ChatIdSet.remove] at h ⊢ <;> exact h

/-- An update is ignored when the status is the same. -/
theorem trackChats_of_status_eq {storage : BotStorage} {update : ChatMemberUpdated}
    (h : update.oldChatMember.status = update.newChatMember.status) :
  trackChats storage update = storage
  := by
  rw [trackChats, extractStatusChange_eq, if_pos h]

/-- The set of the chat of an update after an update that changes the status. -/
theorem chatSet_trackChats {storage : BotStorage} {update : ChatMemberUpdated}
    (h : update.oldChatMember.status ≠ update.newChatMember.status) :
  chatSet (trackChats storage update) update.chat.type
    = trackIn (chatSet storage update.chat.type) update.chat.id
        (decide update.oldChatMember.IsIn) (decide update.newChatMember.IsIn)
  := by
  rw [trackChats, extractStatusChange_eq, if_neg h]
  cases htype : update.chat.type <;> simp only [htype, chatSet]

/-- An update keeps a chat tracked, unless a restricted member joins or leaves. -/
theorem tracks_trackChats_iff {storage : BotStorage} {update : ChatMemberUpdated}
    (h : Tracks storage update.chat update.oldChatMember) :
  Tracks (trackChats storage update) update.chat update.newChatMember
    ↔ ¬ StaysRestricted update
  := by
  rw [Tracks] at h ⊢
  by_cases hstatus : update.oldChatMember.status = update.newChatMember.status
  · rw [trackChats_of_status_eq hstatus, h]
    apply isIn_iff_of_status_eq hstatus
  · have hmem : update.chat.id ∈ (chatSet (trackChats storage update) update.chat.type).values
        ↔ update.newChatMember.IsIn := by
      rw [chatSet_trackChats hstatus, mem_trackIn (by simpa using h), decide_eq_true_iff]
    simp only [hmem, true_iff]
    intro hstays
    apply hstatus hstays.status_eq

/-! ### A sequence of updates -/

/-- The updates are of a chat, the first one changes a given state, and each other one changes
the state that the update before it left. -/
def Chained (chat : Chat) : ChatMember → List ChatMemberUpdated → Prop
  | _, [] => True
  | first, update :: updates =>
      update.chat = chat ∧ update.oldChatMember = first
        ∧ Chained chat update.newChatMember updates

/-- The state that a sequence of updates leaves. -/
def lastState : ChatMember → List ChatMemberUpdated → ChatMember
  | first, [] => first
  | _, update :: updates => lastState update.newChatMember updates

/-- From a tracked chat, a sequence of updates keeps it tracked after each update exactly when no
restricted member joins or leaves. -/
theorem forall_tracks_iff {chat : Chat} {updates : List ChatMemberUpdated} :
  ∀ {storage : BotStorage} {first : ChatMember}, Tracks storage chat first →
    Chained chat first updates →
    ((∀ before, before <+: updates →
        Tracks (before.foldl trackChats storage) chat (lastState first before))
      ↔ ∀ update ∈ updates, ¬ StaysRestricted update)
  := by
  induction updates with
  | nil =>
      intro storage first htracks _
      simpa [lastState] using htracks
  | cons update updates ih =>
      rintro storage first htracks ⟨rfl, rfl, hchained⟩
      have hstep := tracks_trackChats_iff htracks
      rw [List.forall_mem_cons]
      constructor
      · intro hall
        have hone : Tracks (trackChats storage update) update.chat update.newChatMember :=
          hall [update] ⟨updates, rfl⟩
        use hstep.mp hone
        apply (ih hone hchained).mp
        intro before hbefore
        apply hall (update :: before)
        rwa [List.prefix_cons_inj]
      · rintro ⟨hupdate, hupdates⟩ before hbefore
        obtain rfl | ⟨rest, rfl, hrest⟩ := List.prefix_cons_iff.mp hbefore
        · apply htracks
        · apply (ih (hstep.mpr hupdate) hchained).mpr hupdates _ hrest

/-- A storage without chats. -/
def emptyStorage : BotStorage where
  users := ⟨∅⟩
  groups := ⟨∅⟩
  channels := ⟨∅⟩
  nodeOperatorChats := ⟨.empty⟩

/-- A supergroup that changes the bot from a state to another. -/
def supergroupUpdate (oldChatMember newChatMember : ChatMember) : ChatMemberUpdated where
  chat := ⟨-100, .supergroup⟩
  oldChatMember := oldChatMember
  newChatMember := newChatMember

/-- The bot starts outside of a chat that is not in its set. The chat is in its set exactly when
the bot is a member of it, after each update of a sequence, if and only if in no update of the
sequence a restricted member joins or leaves. -/
theorem trackChats_follows_membership {storage : BotStorage} {chat : Chat} {first : ChatMember}
    {updates : List ChatMemberUpdated} (hchat : chat.id ∉ (chatSet storage chat.type).values)
    (hfirst : ¬ first.IsIn) (hchained : Chained chat first updates) :
  (∀ before, before <+: updates →
      (chat.id ∈ (chatSet (before.foldl trackChats storage) chat.type).values
        ↔ (lastState first before).IsIn))
    ↔ ∀ update ∈ updates, ¬ StaysRestricted update
  := by
  apply forall_tracks_iff
  · rw [Tracks]
    simp only [hchat, hfirst]
  · apply hchained

/-- The bot is added to a supergroup and banned from it. -/
theorem trackChats_added_banned :
  let updates := [supergroupUpdate .left .member, supergroupUpdate .member .banned]
  Chained ⟨-100, .supergroup⟩ .left updates
    ∧ ∀ before, before <+: updates →
      (-100 ∈ (chatSet (before.foldl trackChats emptyStorage) .supergroup).values
        ↔ (lastState .left before).IsIn)
  := by
  have hchained : Chained ⟨-100, .supergroup⟩ .left
      [supergroupUpdate .left .member, supergroupUpdate .member .banned] := by
    use rfl, rfl, rfl, rfl
    trivial
  use hchained
  apply (trackChats_follows_membership (by decide) (by decide) hchained).mpr
  simp [StaysRestricted, supergroupUpdate]

/-- The bot is added to a supergroup with restrictions and removed from it with the restrictions
kept. The supergroup stays in its set. -/
theorem trackChats_removed_restricted :
  let updates := [supergroupUpdate .left (.restricted true),
    supergroupUpdate (.restricted true) (.restricted false)]
  Chained ⟨-100, .supergroup⟩ .left updates
    ∧ -100 ∉ (chatSet emptyStorage .supergroup).values ∧ ¬ ChatMember.left.IsIn
    ∧ ¬ (-100 ∈ (chatSet (updates.foldl trackChats emptyStorage) .supergroup).values
      ↔ (lastState .left updates).IsIn)
  := by
  constructor
  · use rfl, rfl, rfl, rfl
    trivial
  · decide

end Sentinel.Handlers
