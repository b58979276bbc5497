import IronCouncil.Base.FreshName
import IronCouncil.Base.ListUpdate
import IronCouncil.Registry.Types
import Mathlib.Data.Prod.Lex
import Mathlib.Data.String.Basic

/-!
# Messages and group chats

Posting to a match. Every operation checks the request first and changes the record only when the check has passed.
-/

namespace IronCouncil

structure MatchMessageCreateRequest where
  tick : Nat
  channel : MessageChannel
  recipientId : Option String
  content : String
deriving DecidableEq, Repr

structure GroupChatCreateRequest where
  tick : Nat
  name : String
  memberIds : List String
deriving DecidableEq, Repr

structure GroupChatMessageCreateRequest where
  tick : Nat
  content : String
deriving DecidableEq, Repr

inductive CommandMessageChannel
  | world
  | direct
  | group
deriving DecidableEq, Repr

structure AgentCommandMessage where
  channel : CommandMessageChannel
  recipientId : Option String
  groupChatId : Option String
  content : String
deriving DecidableEq, Repr

def MessageChannel.toCommandChannel : MessageChannel → CommandMessageChannel
  | .world => .world
  | .direct => .direct

def appendMessage (record : MatchRecord) (channel : MessageChannel) (senderId : String)
    (recipientId : Option String) (tick : Nat) (content : String) : MatchRecord × MatchMessage :=
  let stored : MatchMessage :=
    { messageId := record.messages.length, channel, senderId, recipientId, tick, content }
  ({ record with messages := record.messages ++ [stored] }, stored)

def recordWorldMessage (record : MatchRecord) (tick : Nat) (content : String) : MatchRecord :=
  (appendMessage record .world "system" none tick content).1

/-- A message without its number, which only says when it was stored. -/
def MatchMessage.unnumbered (message : MatchMessage) : MatchMessage := { message with messageId := 0 }

def requireGroupChatMember (record : MatchRecord) (groupChatId playerId : String) :
    Except RegistryError MatchGroupChat :=
  let notVisible : RegistryError := .groupChatAccess "group_chat_not_visible"
    s!"Group chat '{groupChatId}' is not visible to player '{playerId}'."
  match record.groupChats.find? fun groupChat => groupChat.groupChatId = groupChatId with
  | none => .error notVisible
  | some groupChat => if playerId ∈ groupChat.memberIds then .ok groupChat else .error notVisible

def validateCommandMessage (record : MatchRecord) (matchId : String) (message : AgentCommandMessage)
    (playerId : String) : Except RegistryError Unit :=
  let unsupported (text : String) : Except RegistryError Unit :=
    .error (.matchAccess "unsupported_recipient" text)
  match message.channel with
  | .group =>
      if message.recipientId ≠ none then unsupported "Group chat messages do not support recipient_id."
      else
        match message.groupChatId with
        | none => unsupported "Group chat messages require group_chat_id."
        | some groupChatId =>
            match requireGroupChatMember record groupChatId playerId with
            | .error error => .error error
            | .ok _ => .ok ()
  | .world =>
      if message.recipientId ≠ none then unsupported "World messages do not support recipient_id." else .ok ()
  | .direct =>
      if message.groupChatId ≠ none then unsupported "Direct messages do not support group_chat_id."
      else if message.recipientId.all (· ∉ record.state.players.keys) then
        unsupported s!"Direct messages require a recipient_id for a player in match '{matchId}'."
      else .ok ()

def recordMessage (record : MatchRecord) (matchId : String) (message : MatchMessageCreateRequest)
    (senderId : String) : Except RegistryError (MatchRecord × MatchMessage) :=
  match validateCommandMessage record matchId
      ⟨message.channel.toCommandChannel, message.recipientId, none, message.content⟩ senderId with
  | .error error => .error error
  | .ok _ =>
      .ok (appendMessage record message.channel senderId message.recipientId message.tick message.content)

def nextGroupChatId (groupChats : List MatchGroupChat) : String :=
  let existing := groupChats.map (·.groupChatId)
  nextFree (numberedName "group-chat-") existing (existing.length + 1) 1

def createGroupChat (record : MatchRecord) (request : GroupChatCreateRequest) (creatorId : String) :
    MatchRecord × MatchGroupChat :=
  let stored : MatchGroupChat :=
    { groupChatId := nextGroupChatId record.groupChats
      name := request.name
      memberIds := (creatorId :: request.memberIds).dedup.insertionSort (· ≤ ·)
      createdBy := creatorId
      createdTick := request.tick
      messages := [] }
  ({ record with groupChats := record.groupChats ++ [stored] }, stored)

def recordGroupChatMessage (record : MatchRecord) (groupChatId : String)
    (message : GroupChatMessageCreateRequest) (senderId : String) :
    Except RegistryError (MatchRecord × MatchGroupChatMessage) :=
  match requireGroupChatMember record groupChatId senderId with
  | .error error => .error error
  | .ok groupChat =>
      let stored : MatchGroupChatMessage :=
        { messageId := groupChat.messages.length
          groupChatId := groupChat.groupChatId
          senderId := senderId
          tick := message.tick
          content := message.content }
      .ok
        ({ record with
            groupChats := record.groupChats.modifyFirstWhere (fun chat => chat.groupChatId = groupChatId)
              fun chat => { chat with messages := chat.messages ++ [stored] } },
          stored)

/-! ### Reading -/

structure GroupChatRecord where
  groupChatId : String
  name : String
  memberIds : List String
  createdBy : String
  createdTick : Nat
deriving DecidableEq, Repr

@[ext] structure AgentBriefingMessageBuckets where
  direct : List MatchMessage
  group : List MatchGroupChatMessage
  world : List MatchMessage
deriving DecidableEq, Repr

def toGroupChatRecord (groupChat : MatchGroupChat) : GroupChatRecord where
  groupChatId := groupChat.groupChatId
  name := groupChat.name
  memberIds := groupChat.memberIds
  createdBy := groupChat.createdBy
  createdTick := groupChat.createdTick

def isVisibleMessage (playerId : String) (message : MatchMessage) : Bool :=
  message.channel = .world ∨
    (message.channel = .direct ∧ (message.senderId = playerId ∨ message.recipientId = some playerId))

def listVisibleMessages (record : Option MatchRecord) (playerId : String) : List MatchMessage :=
  match record with
  | none => []
  | some record => record.messages.filter (isVisibleMessage playerId)

def visibleGroupChats (record : MatchRecord) (playerId : String) : List MatchGroupChat :=
  record.groupChats.filter fun groupChat => playerId ∈ groupChat.memberIds

def listVisibleGroupChats (record : Option MatchRecord) (playerId : String) : List GroupChatRecord :=
  match record with
  | none => []
  | some record =>
      ((visibleGroupChats record playerId).map toGroupChatRecord).insertionSort
        fun first second => first.groupChatId ≤ second.groupChatId

def isSince (sinceTick : Option Nat) (tick : Nat) : Bool := sinceTick.all (· ≤ tick)

/-- The messages of one chat as they are read, under the chat's id. -/
def groupChatMessageRecords (groupChat : MatchGroupChat) (sinceTick : Option Nat) : List MatchGroupChatMessage :=
  (groupChat.messages.filter fun message => isSince sinceTick message.tick).map fun message =>
    { message with groupChatId := groupChat.groupChatId }

def groupMessageKey (message : MatchGroupChatMessage) : Nat ×ₗ String ×ₗ Nat :=
  toLex (message.tick, toLex (message.groupChatId, message.messageId))

def listVisibleGroupChatMessages (record : Option MatchRecord) (playerId : String) (sinceTick : Option Nat) :
    List MatchGroupChatMessage :=
  match record with
  | none => []
  | some record =>
      ((visibleGroupChats record playerId).flatMap fun groupChat => groupChatMessageRecords groupChat sinceTick).insertionSort
        fun first second => groupMessageKey first ≤ groupMessageKey second

def listBriefingMessages (record : Option MatchRecord) (playerId : String) (sinceTick : Option Nat) :
    AgentBriefingMessageBuckets :=
  let filteredMessages := (listVisibleMessages record playerId).filter fun message => isSince sinceTick message.tick
  { direct := filteredMessages.filter fun message => message.channel = .direct
    group := listVisibleGroupChatMessages record playerId sinceTick
    world := filteredMessages.filter fun message => message.channel = .world }

end IronCouncil
