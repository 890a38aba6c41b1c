import Sentinel.Models
import Mathlib.Data.Finset.Image

/-!
# Notification plans

A plan says how a notification is delivered: as a broadcast, to all chats or to those of some
node operators, as a message for each node operator, or as messages made for each chat from the
node operators that it follows. The engine of the messages makes a plan of what the handler of
an event returns.
-/

namespace Sentinel

/-! ### Plans -/

/-- A way to deliver a notification. Node operator ids are texts. -/
inductive NotificationDelivery where
  /-- `BroadcastDelivery` -/
  | broadcast (message : String) (operatorIds : Option (Finset String))
  /-- `OperatorMessagesDelivery` -/
  | operatorMessages (messages : Dict String String)
  /-- `PerChatDelivery`. The messages are `none` where rendering them raises. -/
  | perChat (operatorIds : Finset String) (render : Finset String → Option (List String))

/-- A plan to deliver a notification. -/
structure NotificationPlan where
  delivery : NotificationDelivery

/-- The texts of node operator ids. -/
def normaliseOperatorIds {α : Type*} (str : α → String) (values : Finset α) : Finset String :=
  values.image str

namespace NotificationPlan

def broadcast (message : String) : NotificationPlan where
  delivery := .broadcast message none

def broadcastToOperators {α : Type*} (str : α → String) (message : String)
    (operatorIds : Finset α) : NotificationPlan where
  delivery := .broadcast message (some (normaliseOperatorIds str operatorIds))

/-- A message for each node operator, `none` where it raises. -/
def perOperator (messages : Dict String String) : Option NotificationPlan :=
  if messages.items = [] then none else some ⟨.operatorMessages messages⟩

/-- Messages for each chat, `none` where it raises. -/
def perChat {α : Type*} (str : α → String) (nodeOperatorIds : Finset α)
    (render : Finset String → Option (List String)) : Option NotificationPlan :=
  if normaliseOperatorIds str nodeOperatorIds = ∅ then none
  else some ⟨.perChat (normaliseOperatorIds str nodeOperatorIds) render⟩

/-- Rendering for some of the node operators of the plan does not raise. -/
def Renders (plan : NotificationPlan) : Prop :=
  match plan.delivery with
  | .perChat operatorIds render => ∀ ids ⊆ operatorIds, (render ids).isSome
  | _ => True

end NotificationPlan

/-! ### The engine of the messages -/

/-- Whether a value can be a member of a set. -/
def Value.isHashable : Value → Bool
  | .list _ | .dict _ => false
  | _ => true

/-- What the handler of an event returns. -/
inductive HandlerResult where
  | nothing
  | message (text : String)
  | plan (plan : NotificationPlan)

/-- The engine of the messages of a module. The result of a handler is `none` where it raises. -/
structure EventMessageEngine where
  notifiableEvents : Finset String
  eventHandlers : Dict String (EventNotification → Option HandlerResult)

namespace EventMessageEngine

/-- The plan for an event without a handler. -/
def default (event : EventNotification) : HandlerResult :=
  .plan (.broadcast ("Event " ++ event.primaryEvent.event ++ " emitted with data: \n"
    ++ (Value.dict event.primaryEvent.args.items).repr))

/-- What the handler of an event returns. -/
def handlerResult (engine : EventMessageEngine) (event : EventNotification) :
    Option HandlerResult :=
  match engine.eventHandlers.get? event.primaryEvent.event with
  | some handler => handler event
  | none => some (default event)

/-- The plan of what a handler returned. -/
def planOf : HandlerResult → Option NotificationPlan
  | .nothing => none
  | .message text => some (.broadcast text)
  | .plan plan => some plan

/-- A plan, a broadcast to all chats narrowed to the node operator of the event, `none` where
the id is no member of a set. -/
def narrow (event : EventNotification) (plan : NotificationPlan) : Option NotificationPlan :=
  match plan.delivery, event.primaryEvent.args.get? "nodeOperatorId" with
  | .broadcast message none, some id =>
      if id.isHashable then some (.broadcastToOperators Value.toText message {id}) else none
  | _, _ => some plan

/-- The plan for an event, if there is one, `none` where it raises. -/
def getNotificationPlan (engine : EventMessageEngine) (event : EventNotification) :
    Option (Option NotificationPlan) :=
  if event.primaryEvent.event ∉ engine.notifiableEvents then some none
  else do
    let result ← engine.handlerResult event
    match planOf result with
    | none => return none
    | some plan => (narrow event plan).map some

/-! ### The handler of an event -/

/-- The handler that an engine calls for a notification. -/
structure IsHandler (engine : EventMessageEngine) (event : EventNotification)
    (handler : EventNotification → Option HandlerResult) : Prop where
  notifiable : event.primaryEvent.event ∈ engine.notifiableEvents
  get?_eq : engine.eventHandlers.get? event.primaryEvent.event = some handler

/-- A plan for some of the chats is not narrowed. -/
theorem narrow_perChat (event : EventNotification) (ids : Finset String)
    (render : Finset String → Option (List String)) :
  narrow event ⟨.perChat ids render⟩ = some ⟨.perChat ids render⟩
  := by
  rw [narrow]

/-- The plan that is made of what a handler returns, where it is not narrowed. -/
theorem IsHandler.getNotificationPlan_eq {engine : EventMessageEngine}
    {event : EventNotification} {handler : EventNotification → Option HandlerResult}
    (h : engine.IsHandler event handler)
    (hnarrow : ∀ result plan, handler event = some result → planOf result = some plan →
      narrow event plan = some plan) :
  engine.getNotificationPlan event = (handler event).map planOf
  := by
  have hresult : engine.handlerResult event = handler event := by
    rw [handlerResult, h.get?_eq]
  rw [getNotificationPlan, if_neg (not_not_intro h.notifiable), hresult]
  cases hevent : handler event with
  | none => rfl
  | some result =>
      change (match planOf result with
        | none => some none
        | some plan => (narrow event plan).map some) = _
      rw [Option.map_some]
      cases hplan : planOf result with
      | none => rfl
      | some plan => exact congrArg (Option.map some) (hnarrow result plan hevent hplan)

end EventMessageEngine

end Sentinel
