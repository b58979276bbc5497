import IronCouncil.Base.Observer
import IronCouncil.Registry.Messaging
import IronCouncil.Registry.Commands
import Mathlib.Data.List.GetD

/-!
# What a player can tell about the talk of others

Messages are numbered and group chats are named as they come, whoever they are for, so the ids a player sees count the traffic the player does not see. Nothing else does: an inbox that keeps no ids takes in what is addressed to the player and stays as it is on everything else, and two runs that address the same to the player differ, for the player, in the ids alone.
-/

namespace IronCouncil

/-! ### Operations -/

inductive MessagingOperation
  | message (senderId : String) (request : MatchMessageCreateRequest)
  | groupChat (creatorId : String) (request : GroupChatCreateRequest)
  | groupMessage (senderId groupChatId : String) (request : GroupChatMessageCreateRequest)

inductive AcceptanceRecord
  | message (stored : MatchMessage)
  | groupChat (stored : GroupChatRecord)
  | groupMessage (stored : MatchGroupChatMessage)
deriving DecidableEq

/-- A match and the acceptance records returned so far, each with the player it was returned to. -/
structure Talk where
  record : MatchRecord
  accepted : List (String × AcceptanceRecord)

/-- An operation that is refused changes nothing. -/
def talkStep (matchId : String) (talk : Talk) : MessagingOperation → Talk
  | .message senderId request =>
      match recordMessage talk.record matchId request senderId with
      | .error _ => talk
      | .ok (record, stored) => ⟨record, talk.accepted ++ [(senderId, .message stored)]⟩
  | .groupChat creatorId request =>
      let created := createGroupChat talk.record request creatorId
      ⟨created.1, talk.accepted ++ [(creatorId, .groupChat (toGroupChatRecord created.2))]⟩
  | .groupMessage senderId groupChatId request =>
      match recordGroupChatMessage talk.record groupChatId request senderId with
      | .error _ => talk
      | .ok (record, stored) => ⟨record, talk.accepted ++ [(senderId, .groupMessage stored)]⟩

def Talk.acceptedFor (talk : Talk) (playerId : String) : List AcceptanceRecord :=
  (talk.accepted.filter fun entry => entry.1 = playerId).map Prod.snd

/-! ### Without ids -/

def GroupChatRecord.rename (name : String → String) (groupChat : GroupChatRecord) : GroupChatRecord :=
  { groupChat with groupChatId := name groupChat.groupChatId }

def MatchGroupChatMessage.rename (name : String → String) (message : MatchGroupChatMessage) : MatchGroupChatMessage :=
  { message with groupChatId := name message.groupChatId }

/-- An acceptance record under other names of the group chats, without the number of a message in the match. -/
def AcceptanceRecord.rename (name : String → String) : AcceptanceRecord → AcceptanceRecord
  | .message stored => .message stored.unnumbered
  | .groupChat stored => .groupChat (stored.rename name)
  | .groupMessage stored => .groupMessage (stored.rename name)

/-- A group chat under no name. -/
def MatchGroupChat.unnamed (groupChat : MatchGroupChat) : MatchGroupChat :=
  { groupChat with
    groupChatId := ""
    messages := groupChat.messages.map (MatchGroupChatMessage.rename fun _ => "") }

/-! ### The inbox -/

/-- What reaches a player. A message in a group chat comes with the place of the chat among the player's chats. -/
inductive Delivery
  | message (message : MatchMessage)
  | groupChat (groupChat : MatchGroupChat)
  | groupMessage (place : Nat) (message : MatchGroupChatMessage)

/-- What a player has, without ids. Acceptance records come with the place of the group chat they are about. -/
structure Inbox where
  messages : List MatchMessage
  groupChats : List MatchGroupChat
  accepted : List (Nat × AcceptanceRecord)

def Inbox.chatLength (inbox : Inbox) (place : Nat) : Nat := (inbox.groupChats[place]?.map (·.messages.length)).getD 0

def Inbox.deliver (playerId : String) (inbox : Inbox) : Delivery → Inbox
  | .message message =>
      { inbox with
        messages := inbox.messages ++ [message]
        accepted := inbox.accepted ++ if message.senderId = playerId then [(0, .message message)] else [] }
  | .groupChat groupChat =>
      { inbox with
        groupChats := inbox.groupChats ++ [groupChat]
        accepted := inbox.accepted ++ if groupChat.createdBy = playerId then
          [(inbox.groupChats.length, .groupChat (toGroupChatRecord groupChat))] else [] }
  | .groupMessage place message =>
      let stored := { message with messageId := inbox.chatLength place }
      { inbox with
        groupChats := inbox.groupChats.modify place fun groupChat =>
          { groupChat with messages := groupChat.messages ++ [stored] }
        accepted := inbox.accepted ++ if message.senderId = playerId then [(place, .groupMessage stored)] else [] }

/-- The place of a chat among the player's chats. -/
def chatPlace (record : MatchRecord) (playerId groupChatId : String) : Nat :=
  ((record.groupChats.takeWhile fun groupChat => groupChat.groupChatId ≠ groupChatId).filter
    fun groupChat => playerId ∈ groupChat.memberIds).length

/-- What an operation brings the player: an accepted message to everyone, from the player or to the player, a group chat with the player, an accepted message in such a chat. -/
def delivered (matchId playerId : String) (talk : Talk) : MessagingOperation → Option Delivery
  | .message senderId request =>
      match recordMessage talk.record matchId request senderId with
      | .error _ => none
      | .ok (_, stored) => if isVisibleMessage playerId stored then some (.message stored.unnumbered) else none
  | .groupChat creatorId request =>
      let stored := (createGroupChat talk.record request creatorId).2
      if playerId ∈ stored.memberIds then some (.groupChat stored.unnamed) else none
  | .groupMessage senderId groupChatId request =>
      match requireGroupChatMember talk.record groupChatId senderId with
      | .error _ => none
      | .ok groupChat =>
          if playerId ∈ groupChat.memberIds then
            some (.groupMessage (chatPlace talk.record playerId groupChatId)
              { messageId := 0, groupChatId := "", senderId, tick := request.tick, content := request.content })
          else none

/-! ### A talk and an inbox -/

def Talk.chatIds (talk : Talk) (playerId : String) : List String :=
  (visibleGroupChats talk.record playerId).map (·.groupChatId)

/-- An acceptance record of the inbox under the id of its chat. -/
def placedRecord (chatIds : List String) (entry : Nat × AcceptanceRecord) : AcceptanceRecord :=
  entry.2.rename fun _ => chatIds.getD entry.1 ""

/-- The inbox holds what the player can read, but for the ids. -/
structure Reads (playerId : String) (talk : Talk) (inbox : Inbox) : Prop where
  distinct : (talk.record.groupChats.map (·.groupChatId)).Nodup
  messages : (listVisibleMessages (some talk.record) playerId).map MatchMessage.unnumbered = inbox.messages
  groupChats : (visibleGroupChats talk.record playerId).map MatchGroupChat.unnamed = inbox.groupChats
  accepted : (talk.acceptedFor playerId).map (AcceptanceRecord.rename id) =
    inbox.accepted.map (placedRecord (talk.chatIds playerId))
  placed : ∀ entry ∈ inbox.accepted, (∃ message, entry.2 = .message message) ∨ entry.1 < inbox.groupChats.length

theorem acceptedFor_append (talk : Talk) (record : MatchRecord) (senderId playerId : String) (stored : AcceptanceRecord) :
    Talk.acceptedFor ⟨record, talk.accepted ++ [(senderId, stored)]⟩ playerId =
      talk.acceptedFor playerId ++ if senderId = playerId then [stored] else [] := by
  unfold Talk.acceptedFor
  rw [List.filter_append, List.map_append, List.filter_singleton]
  by_cases hsender : senderId = playerId
  · simp [hsender]
  · simp [hsender]

theorem recordMessage_eq_ok {record next : MatchRecord} {matchId senderId : String} {request : MatchMessageCreateRequest}
    {stored : MatchMessage} (h : recordMessage record matchId request senderId = .ok (next, stored)) :
    next = { record with messages := record.messages ++ [stored] } ∧ stored.senderId = senderId := by
  unfold recordMessage at h
  split at h
  · cases h
  · cases h
    exact ⟨rfl, rfl⟩

theorem not_sender_of_not_visible {playerId : String} {message : MatchMessage}
    (h : isVisibleMessage playerId message = false) : message.senderId ≠ playerId := by
  intro hsender
  unfold isVisibleMessage at h
  rw [hsender] at h
  cases hchannel : message.channel <;> simp [hchannel] at h

theorem listVisibleMessages_append (record : MatchRecord) (playerId : String) (stored : MatchMessage) :
    listVisibleMessages (some { record with messages := record.messages ++ [stored] }) playerId =
      listVisibleMessages (some record) playerId ++ if isVisibleMessage playerId stored then [stored] else [] := by
  unfold listVisibleMessages
  simp only
  rw [List.filter_append, List.filter_singleton]
  cases isVisibleMessage playerId stored <;> rfl

section Steps

variable {matchId playerId : String} {talk : Talk} {inbox : Inbox}

theorem reads_message (h : Reads playerId talk inbox) {record : MatchRecord} {senderId : String}
    {request : MatchMessageCreateRequest} {stored : MatchMessage}
    (hok : recordMessage talk.record matchId request senderId = .ok (record, stored)) :
    Reads playerId ⟨record, talk.accepted ++ [(senderId, .message stored)]⟩
      (if isVisibleMessage playerId stored then inbox.deliver playerId (.message stored.unnumbered) else inbox) := by
  obtain ⟨rfl, rfl⟩ := recordMessage_eq_ok hok
  cases hvisible : isVisibleMessage playerId stored with
  | false =>
      have hsender := not_sender_of_not_visible hvisible
      refine ⟨h.distinct, ?_, h.groupChats, ?_, h.placed⟩
      · show (listVisibleMessages (some { talk.record with messages := talk.record.messages ++ [stored] }) playerId).map _ = _
        rw [listVisibleMessages_append, hvisible]
        simpa using h.messages
      · rw [acceptedFor_append, if_neg hsender, List.append_nil]
        exact h.accepted
  | true =>
      refine ⟨h.distinct, ?_, h.groupChats, ?_, ?_⟩
      · show (listVisibleMessages (some { talk.record with messages := talk.record.messages ++ [stored] }) playerId).map _ = _
        rw [listVisibleMessages_append, hvisible, if_pos rfl, List.map_append, h.messages]
        rfl
      · rw [acceptedFor_append, List.map_append, h.accepted]
        show _ = (inbox.accepted ++ if stored.senderId = playerId then [(0, AcceptanceRecord.message stored.unnumbered)] else []).map _
        rw [List.map_append]
        congr 1
        by_cases hsender : stored.senderId = playerId
        · rw [if_pos hsender, if_pos hsender]
          rfl
        · rw [if_neg hsender, if_neg hsender]
          rfl
      · intro entry hentry
        rcases List.mem_append.1 hentry with hentry | hentry
        · exact h.placed entry hentry
        · by_cases hsender : stored.unnumbered.senderId = playerId
          · rw [if_pos hsender] at hentry
            rw [List.mem_singleton.1 hentry]
            exact Or.inl ⟨_, rfl⟩
          · rw [if_neg hsender] at hentry
            exact absurd hentry List.not_mem_nil

theorem visibleGroupChats_append (record : MatchRecord) (playerId : String) (stored : MatchGroupChat) :
    visibleGroupChats { record with groupChats := record.groupChats ++ [stored] } playerId =
      visibleGroupChats record playerId ++ if playerId ∈ stored.memberIds then [stored] else [] := by
  unfold visibleGroupChats
  rw [List.filter_append, List.filter_singleton]
  by_cases hmember : playerId ∈ stored.memberIds
  · simp [hmember]
  · simp [hmember]

theorem mem_members_of_creator (record : MatchRecord) (request : GroupChatCreateRequest) (creatorId : String) :
    creatorId ∈ (createGroupChat record request creatorId).2.memberIds := by
  unfold createGroupChat
  simp only [List.mem_insertionSort, List.mem_dedup]
  exact List.mem_cons_self

/-- Records of chats that are there keep their ids when another chat comes. -/
theorem placedRecord_append {entry : Nat × AcceptanceRecord} {chatIds : List String}
    (h : (∃ message, entry.2 = .message message) ∨ entry.1 < chatIds.length) (later : List String) :
    placedRecord (chatIds ++ later) entry = placedRecord chatIds entry := by
  unfold placedRecord
  rcases h with ⟨message, hmessage⟩ | hplace
  · rw [hmessage]
    rfl
  · rw [List.getD_append _ _ _ _ hplace]

theorem chatIds_length (h : Reads playerId talk inbox) : (talk.chatIds playerId).length = inbox.groupChats.length := by
  rw [← h.groupChats]
  unfold Talk.chatIds
  rw [List.length_map, List.length_map]

theorem reads_groupChat (h : Reads playerId talk inbox) (creatorId : String) (request : GroupChatCreateRequest) :
    Reads playerId (talkStep matchId talk (.groupChat creatorId request))
      (if playerId ∈ (createGroupChat talk.record request creatorId).2.memberIds then
        inbox.deliver playerId (.groupChat (createGroupChat talk.record request creatorId).2.unnamed) else inbox) := by
  have hcreator := mem_members_of_creator talk.record request creatorId
  have hby : (createGroupChat talk.record request creatorId).2.createdBy = creatorId := rfl
  have hrecord : (createGroupChat talk.record request creatorId).1 =
      { talk.record with groupChats := talk.record.groupChats ++ [(createGroupChat talk.record request creatorId).2] } :=
    rfl
  have hid : (createGroupChat talk.record request creatorId).2.groupChatId = nextGroupChatId talk.record.groupChats := rfl
  unfold talkStep
  simp only
  rw [hrecord]
  revert hcreator hby hid
  generalize (createGroupChat talk.record request creatorId).2 = stored
  intro hcreator hby hid
  have hdistinct : ((talk.record.groupChats ++ [stored]).map (·.groupChatId)).Nodup := by
    rw [List.map_append, List.map_singleton]
    apply List.Nodup.append h.distinct (List.nodup_singleton _)
    rw [List.disjoint_singleton, hid]
    exact nextFree_not_mem (numberedName_injective _) _ _
  by_cases hmember : playerId ∈ stored.memberIds
  · rw [if_pos hmember]
    have hids : Talk.chatIds ⟨{ talk.record with groupChats := talk.record.groupChats ++ [stored] },
        talk.accepted ++ [(creatorId, .groupChat (toGroupChatRecord stored))]⟩ playerId =
          talk.chatIds playerId ++ [stored.groupChatId] := by
      unfold Talk.chatIds
      rw [visibleGroupChats_append, if_pos hmember, List.map_append]
      rfl
    refine ⟨hdistinct, h.messages, ?_, ?_, ?_⟩
    · show (visibleGroupChats { talk.record with groupChats := talk.record.groupChats ++ [stored] } playerId).map _ = _
      rw [visibleGroupChats_append, if_pos hmember, List.map_append, h.groupChats]
      rfl
    · rw [hids, acceptedFor_append, List.map_append, h.accepted]
      show _ = (inbox.accepted ++ if stored.unnamed.createdBy = playerId then _ else []).map _
      rw [List.map_append]
      congr 1
      · apply List.map_congr_left
        intro entry hentry
        rw [placedRecord_append]
        rw [chatIds_length h]
        exact h.placed entry hentry
      · have hcreated : stored.unnamed.createdBy = creatorId := hby
        rw [hcreated]
        by_cases hown : creatorId = playerId
        · have hplace : (talk.chatIds playerId ++ [stored.groupChatId]).getD inbox.groupChats.length "" =
              stored.groupChatId := by
            rw [← chatIds_length h]
            simp
          rw [if_pos hown, if_pos hown]
          simp only [List.map_singleton, placedRecord, AcceptanceRecord.rename, hplace]
          rfl
        · rw [if_neg hown, if_neg hown]
          rfl
    · intro entry hentry
      have hlength : (inbox.deliver playerId (.groupChat stored.unnamed)).groupChats.length =
          inbox.groupChats.length + 1 := by
        show (inbox.groupChats ++ [stored.unnamed]).length = _
        rw [List.length_append]
        rfl
      rw [hlength]
      rcases List.mem_append.1 hentry with hentry | hentry
      · rcases h.placed entry hentry with hmessage | hplace
        · exact Or.inl hmessage
        · exact Or.inr (by omega)
      · by_cases hown : stored.unnamed.createdBy = playerId
        · rw [if_pos hown] at hentry
          rw [List.mem_singleton.1 hentry]
          exact Or.inr (Nat.lt_succ_self _)
        · rw [if_neg hown] at hentry
          exact absurd hentry List.not_mem_nil
  · rw [if_neg hmember]
    have hown : creatorId ≠ playerId := fun heq => hmember (heq ▸ hcreator)
    have hchats : visibleGroupChats { talk.record with groupChats := talk.record.groupChats ++ [stored] } playerId =
        visibleGroupChats talk.record playerId := by
      rw [visibleGroupChats_append, if_neg hmember, List.append_nil]
    refine ⟨hdistinct, h.messages, ?_, ?_, h.placed⟩
    · rw [hchats]
      exact h.groupChats
    · rw [acceptedFor_append, if_neg hown, List.append_nil, h.accepted]
      unfold Talk.chatIds
      rw [hchats]

theorem requireGroupChatMember_eq_ok {record : MatchRecord} {groupChatId senderId : String} {groupChat : MatchGroupChat}
    (h : requireGroupChatMember record groupChatId senderId = .ok groupChat) :
    record.groupChats.find? (fun chat => chat.groupChatId = groupChatId) = some groupChat ∧
      senderId ∈ groupChat.memberIds := by
  unfold requireGroupChatMember at h
  simp only at h
  split at h
  · cases h
  · rename_i found hfound
    split at h
    · rename_i hmember
      cases h
      exact ⟨hfound, hmember⟩
    · cases h

theorem chatPlace_eq (record : MatchRecord) (playerId groupChatId : String) :
    chatPlace record playerId groupChatId =
      ((record.groupChats.takeWhile fun chat => !decide (chat.groupChatId = groupChatId)).filter
        fun groupChat => playerId ∈ groupChat.memberIds).length := by
  unfold chatPlace
  simp only [ne_eq, decide_not]

/-- A chat the player is in is found at its place. -/
theorem getElem?_chatPlace {record : MatchRecord} {groupChatId : String} {groupChat : MatchGroupChat}
    (hfound : record.groupChats.find? (fun chat => chat.groupChatId = groupChatId) = some groupChat)
    (hmember : playerId ∈ groupChat.memberIds) :
    (visibleGroupChats record playerId)[chatPlace record playerId groupChatId]? = some groupChat := by
  rw [chatPlace_eq]
  exact List.getElem?_filter_of_find? hfound (decide_eq_true hmember)

theorem visibleGroupChats_post {record : MatchRecord} {groupChatId : String} {groupChat : MatchGroupChat}
    (hfound : record.groupChats.find? (fun chat => chat.groupChatId = groupChatId) = some groupChat)
    (stored : MatchGroupChatMessage) (playerId : String) :
    visibleGroupChats
        { record with
          groupChats := record.groupChats.modifyFirstWhere (fun chat => chat.groupChatId = groupChatId)
            fun chat => { chat with messages := chat.messages ++ [stored] } } playerId =
      if playerId ∈ groupChat.memberIds then
        (visibleGroupChats record playerId).modify (chatPlace record playerId groupChatId)
          fun chat => { chat with messages := chat.messages ++ [stored] }
      else visibleGroupChats record playerId := by
  unfold visibleGroupChats
  simp only
  rw [List.filter_modifyFirstWhere, hfound, chatPlace_eq]
  · simp only [Option.any_some, decide_eq_true_eq]
  · exact fun _ => rfl

theorem reads_groupMessage (h : Reads playerId talk inbox) {senderId groupChatId : String}
    {request : GroupChatMessageCreateRequest} {groupChat : MatchGroupChat}
    (hok : requireGroupChatMember talk.record groupChatId senderId = .ok groupChat) :
    Reads playerId (talkStep matchId talk (.groupMessage senderId groupChatId request))
      (if playerId ∈ groupChat.memberIds then
        inbox.deliver playerId (.groupMessage (chatPlace talk.record playerId groupChatId)
          { messageId := 0, groupChatId := "", senderId, tick := request.tick, content := request.content })
        else inbox) := by
  obtain ⟨hfound, hsender⟩ := requireGroupChatMember_eq_ok hok
  unfold talkStep recordGroupChatMessage
  simp only [hok]
  have hids : ∀ (record : MatchRecord) (messages : List MatchGroupChatMessage) (place : Nat),
      ((visibleGroupChats record playerId).modify place
        fun chat => { chat with messages := chat.messages ++ messages }).map (·.groupChatId) =
          (visibleGroupChats record playerId).map (·.groupChatId) := by
    intro record messages place
    rw [List.map_modify_of_frame]
    exact fun _ => rfl
  have hdistinct : ∀ messages : List MatchGroupChatMessage,
      ((talk.record.groupChats.modifyFirstWhere (fun chat => chat.groupChatId = groupChatId)
        fun chat => { chat with messages := chat.messages ++ messages }).map (·.groupChatId)).Nodup := by
    intro messages
    rw [List.map_modifyFirstWhere]
    · exact h.distinct
    · exact fun _ => rfl
  by_cases hmember : playerId ∈ groupChat.memberIds
  · rw [if_pos hmember]
    have hplace := getElem?_chatPlace hfound hmember
    have hlength : inbox.chatLength (chatPlace talk.record playerId groupChatId) = groupChat.messages.length := by
      unfold Inbox.chatLength
      rw [← h.groupChats, List.getElem?_map, hplace]
      simp [MatchGroupChat.unnamed]
    have hbound : chatPlace talk.record playerId groupChatId < inbox.groupChats.length := by
      rw [← h.groupChats, List.length_map]
      exact (List.getElem?_eq_some_iff.1 hplace).1
    refine ⟨hdistinct _, h.messages, ?_, ?_, ?_⟩
    · simp only
      rw [visibleGroupChats_post hfound, if_pos hmember]
      unfold Inbox.deliver
      simp only
      rw [hlength, ← h.groupChats]
      apply List.map_modify
      intro chat
      simp [MatchGroupChat.unnamed, MatchGroupChatMessage.rename]
    · have hsame : Talk.chatIds
          ⟨{ talk.record with
              groupChats := talk.record.groupChats.modifyFirstWhere (fun chat => chat.groupChatId = groupChatId)
                fun chat => { chat with messages := chat.messages ++
                  [{ messageId := groupChat.messages.length, groupChatId := groupChat.groupChatId,
                     senderId := senderId, tick := request.tick, content := request.content }] } },
            talk.accepted ++ [(senderId, AcceptanceRecord.groupMessage
              { messageId := groupChat.messages.length, groupChatId := groupChat.groupChatId,
                senderId := senderId, tick := request.tick, content := request.content })]⟩ playerId =
          talk.chatIds playerId := by
        unfold Talk.chatIds
        simp only
        rw [visibleGroupChats_post hfound, if_pos hmember]
        exact hids _ _ _
      have hid : (talk.chatIds playerId).getD (chatPlace talk.record playerId groupChatId) "" = groupChat.groupChatId := by
        unfold Talk.chatIds
        rw [List.getD_eq_getElem?_getD, List.getElem?_map, hplace]
        rfl
      rw [hsame, acceptedFor_append, List.map_append, h.accepted]
      unfold Inbox.deliver
      simp only
      rw [List.map_append]
      congr 1
      by_cases hown : senderId = playerId
      · rw [if_pos hown, if_pos hown]
        simp only [List.map_singleton, placedRecord, AcceptanceRecord.rename, MatchGroupChatMessage.rename, hlength, hid]
        rfl
      · rw [if_neg hown, if_neg hown]
        rfl
    · intro entry hentry
      have hsize : (inbox.deliver playerId (.groupMessage (chatPlace talk.record playerId groupChatId)
          { messageId := 0, groupChatId := "", senderId, tick := request.tick, content := request.content })).groupChats.length =
            inbox.groupChats.length := by
        unfold Inbox.deliver
        simp only [List.length_modify]
      rw [hsize]
      rcases List.mem_append.1 hentry with hentry | hentry
      · exact h.placed entry hentry
      · by_cases hown : senderId = playerId
        · rw [if_pos hown] at hentry
          rw [List.mem_singleton.1 hentry]
          exact Or.inr hbound
        · rw [if_neg hown] at hentry
          exact absurd hentry List.not_mem_nil
  · rw [if_neg hmember]
    have hown : senderId ≠ playerId := fun heq => hmember (heq ▸ hsender)
    have hchats : ∀ stored : MatchGroupChatMessage, visibleGroupChats
        { talk.record with
          groupChats := talk.record.groupChats.modifyFirstWhere (fun chat => chat.groupChatId = groupChatId)
            fun chat => { chat with messages := chat.messages ++ [stored] } } playerId =
          visibleGroupChats talk.record playerId := by
      intro stored
      rw [visibleGroupChats_post hfound, if_neg hmember]
    refine ⟨hdistinct _, h.messages, ?_, ?_, h.placed⟩
    · simp only
      rw [hchats]
      exact h.groupChats
    · rw [acceptedFor_append, if_neg hown, List.append_nil, h.accepted]
      unfold Talk.chatIds
      simp only
      rw [hchats]

end Steps

/-- An operation changes the inbox by what it delivers. -/
theorem reads_step (matchId : String) {playerId : String} {talk : Talk} {inbox : Inbox} (h : Reads playerId talk inbox)
    (operation : MessagingOperation) :
    Reads playerId (talkStep matchId talk operation)
      (match delivered matchId playerId talk operation with
        | none => inbox
        | some delivery => inbox.deliver playerId delivery) := by
  cases operation with
  | message senderId request =>
      unfold talkStep delivered
      simp only
      cases hok : recordMessage talk.record matchId request senderId with
      | error error => exact h
      | ok posted =>
          obtain ⟨record, stored⟩ := posted
          have hreads := reads_message h hok
          cases hvisible : isVisibleMessage playerId stored with
          | false => simpa only [hvisible, Bool.false_eq_true, if_false] using hreads
          | true => simpa only [hvisible, if_true] using hreads
  | groupChat creatorId request =>
      have hreads : Reads playerId (talkStep matchId talk (.groupChat creatorId request)) _ :=
        reads_groupChat h creatorId request
      unfold delivered
      simp only
      by_cases hmember : playerId ∈ (createGroupChat talk.record request creatorId).2.memberIds
      · rw [if_pos hmember] at hreads
        rw [if_pos hmember]
        exact hreads
      · rw [if_neg hmember] at hreads
        rw [if_neg hmember]
        exact hreads
  | groupMessage senderId groupChatId request =>
      unfold delivered
      simp only
      cases hok : requireGroupChatMember talk.record groupChatId senderId with
      | error error =>
          unfold talkStep recordGroupChatMessage
          simp only [hok]
          exact h
      | ok groupChat =>
          have hreads : Reads playerId (talkStep matchId talk (.groupMessage senderId groupChatId request)) _ :=
            reads_groupMessage h hok
          simp only
          by_cases hmember : playerId ∈ groupChat.memberIds
          · rw [if_pos hmember] at hreads
            rw [if_pos hmember]
            exact hreads
          · rw [if_neg hmember] at hreads
            rw [if_neg hmember]
            exact hreads

/-! ### Two talks with one inbox -/

/-- What a player can read after two talks, which differ in the numbers of messages and in the names of group chats. -/
structure SameButIds (playerId : String) (name : String → String) (first second : Talk) : Prop where
  injective : Set.InjOn name { groupChatId | groupChatId ∈ first.chatIds playerId }
  messages : (listVisibleMessages (some second.record) playerId).map MatchMessage.unnumbered =
    (listVisibleMessages (some first.record) playerId).map MatchMessage.unnumbered
  groupChats : (listVisibleGroupChats (some second.record) playerId).Perm
    ((listVisibleGroupChats (some first.record) playerId).map (GroupChatRecord.rename name))
  groupMessages : ∀ sinceTick, (listVisibleGroupChatMessages (some second.record) playerId sinceTick).Perm
    ((listVisibleGroupChatMessages (some first.record) playerId sinceTick).map (MatchGroupChatMessage.rename name))
  direct : ∀ sinceTick,
    (listBriefingMessages (some second.record) playerId sinceTick).direct.map MatchMessage.unnumbered =
      (listBriefingMessages (some first.record) playerId sinceTick).direct.map MatchMessage.unnumbered
  world : ∀ sinceTick,
    (listBriefingMessages (some second.record) playerId sinceTick).world.map MatchMessage.unnumbered =
      (listBriefingMessages (some first.record) playerId sinceTick).world.map MatchMessage.unnumbered
  group : ∀ sinceTick, (listBriefingMessages (some second.record) playerId sinceTick).group.Perm
    ((listBriefingMessages (some first.record) playerId sinceTick).group.map (MatchGroupChatMessage.rename name))
  accepted : (second.acceptedFor playerId).map (AcceptanceRecord.rename id) =
    (first.acceptedFor playerId).map (AcceptanceRecord.rename name)

/-- The name that takes one list of ids to another of the same length. -/
def correspondingId (first second : List String) (groupChatId : String) : String :=
  second.getD (first.idxOf groupChatId) ""

theorem correspondingId_getD {first second : List String} (hnodup : first.Nodup) {place : Nat} (hplace : place < first.length) :
    correspondingId first second (first.getD place "") = second.getD place "" := by
  unfold correspondingId
  rw [List.getD_eq_getElem _ _ hplace, hnodup.idxOf_getElem]

theorem map_correspondingId {first second : List String} (hnodup : first.Nodup) (hlength : first.length = second.length) :
    first.map (correspondingId first second) = second := by
  apply List.ext_getElem
  · rw [List.length_map, hlength]
  · intro place hplace hplace'
    rw [List.length_map] at hplace
    have hname : correspondingId first second (first.getD place "") = second.getD place "" :=
      correspondingId_getD hnodup hplace
    rw [List.getD_eq_getElem _ _ hplace, List.getD_eq_getElem _ _ hplace'] at hname
    rw [List.getElem_map, hname]

section Common

variable {playerId : String} {first second : Talk} {inbox : Inbox}

theorem chatIds_nodup (h : Reads playerId first inbox) : (first.chatIds playerId).Nodup :=
  (List.Sublist.map _ List.filter_sublist).nodup h.distinct

/-- Chat by chat, the second talk has the first talk's chats under their other names. -/
theorem map_visibleGroupChats (hfirst : Reads playerId first inbox) (hsecond : Reads playerId second inbox) :
    (visibleGroupChats second.record playerId).map (fun chat => (chat.groupChatId, chat.unnamed)) =
      (visibleGroupChats first.record playerId).map fun chat =>
        (correspondingId (first.chatIds playerId) (second.chatIds playerId) chat.groupChatId, chat.unnamed) := by
  have hlength : (first.chatIds playerId).length = (second.chatIds playerId).length :=
    (chatIds_length hfirst).trans (chatIds_length hsecond).symm
  have hids := map_correspondingId (chatIds_nodup hfirst) hlength
  have hzip : (second.chatIds playerId).zip inbox.groupChats =
      ((first.chatIds playerId).map (correspondingId (first.chatIds playerId) (second.chatIds playerId))).zip
        inbox.groupChats := by rw [hids]
  rw [← hsecond.groupChats] at hzip
  unfold Talk.chatIds at hzip ⊢
  rw [List.zip_map', hsecond.groupChats, ← hfirst.groupChats, List.map_map, List.zip_map'] at hzip
  exact hzip

theorem chatRecords_renamed (hfirst : Reads playerId first inbox) (hsecond : Reads playerId second inbox) :
    (visibleGroupChats second.record playerId).map toGroupChatRecord =
      ((visibleGroupChats first.record playerId).map toGroupChatRecord).map
        (GroupChatRecord.rename (correspondingId (first.chatIds playerId) (second.chatIds playerId))) := by
  have hpairs := congrArg (List.map fun entry : String × MatchGroupChat =>
    (toGroupChatRecord entry.2).rename fun _ => entry.1) (map_visibleGroupChats hfirst hsecond)
  rw [List.map_map, List.map_map] at hpairs
  rw [List.map_map]
  exact hpairs

theorem chatMessages_renamed (hfirst : Reads playerId first inbox) (hsecond : Reads playerId second inbox)
    (sinceTick : Option Nat) :
    ((visibleGroupChats second.record playerId).flatMap fun chat => groupChatMessageRecords chat sinceTick) =
      ((visibleGroupChats first.record playerId).flatMap fun chat => groupChatMessageRecords chat sinceTick).map
        (MatchGroupChatMessage.rename (correspondingId (first.chatIds playerId) (second.chatIds playerId))) := by
  have hrecords : ∀ (chat : MatchGroupChat) (name : String), ((chat.unnamed.messages.filter
      fun message => isSince sinceTick message.tick).map (MatchGroupChatMessage.rename fun _ => name)) =
        (groupChatMessageRecords chat sinceTick).map (MatchGroupChatMessage.rename fun _ => name) := by
    intro chat name
    unfold MatchGroupChat.unnamed groupChatMessageRecords
    simp only
    rw [List.filter_map, List.map_map, List.map_map]
    rfl
  have hpairs := congrArg (List.flatMap fun entry : String × MatchGroupChat =>
    ((entry.2.messages.filter fun message => isSince sinceTick message.tick).map
      (MatchGroupChatMessage.rename fun _ => entry.1))) (map_visibleGroupChats hfirst hsecond)
  rw [List.flatMap_map, List.flatMap_map] at hpairs
  simp only [hrecords] at hpairs
  rw [List.map_flatMap]
  unfold groupChatMessageRecords at hpairs ⊢
  simp only [List.map_map] at hpairs ⊢
  exact hpairs

theorem rename_rename (name name' : String → String) (accepted : AcceptanceRecord) :
    (accepted.rename name).rename name' = accepted.rename fun groupChatId => name' (name groupChatId) := by
  cases accepted <;> rfl

theorem accepted_renamed (hfirst : Reads playerId first inbox) (hsecond : Reads playerId second inbox) :
    (second.acceptedFor playerId).map (AcceptanceRecord.rename id) =
      (first.acceptedFor playerId).map
        (AcceptanceRecord.rename (correspondingId (first.chatIds playerId) (second.chatIds playerId))) := by
  have hplaced : ∀ entry ∈ inbox.accepted,
      (placedRecord (first.chatIds playerId) entry).rename
          (correspondingId (first.chatIds playerId) (second.chatIds playerId)) =
        placedRecord (second.chatIds playerId) entry := by
    intro entry hentry
    unfold placedRecord
    rw [rename_rename]
    rcases hfirst.placed entry hentry with ⟨message, hmessage⟩ | hplace
    · rw [hmessage]
      rfl
    · rw [correspondingId_getD (chatIds_nodup hfirst) (by rwa [chatIds_length hfirst])]
  have hmap := congrArg (List.map (AcceptanceRecord.rename
    (correspondingId (first.chatIds playerId) (second.chatIds playerId)))) hfirst.accepted
  rw [List.map_map, List.map_map] at hmap
  rw [hsecond.accepted, ← List.map_congr_left hplaced]
  simpa only [Function.comp_def, rename_rename, id] using hmap.symm

theorem filter_unnumbered {p : MatchMessage → Bool} (hp : ∀ message, p message.unnumbered = p message)
    {l l' : List MatchMessage} (h : l.map MatchMessage.unnumbered = l'.map MatchMessage.unnumbered) :
    (l.filter p).map MatchMessage.unnumbered = (l'.filter p).map MatchMessage.unnumbered := by
  have hfilter := congrArg (List.filter p) h
  rw [List.filter_map, List.filter_map] at hfilter
  simpa only [Function.comp_def, hp] using hfilter

theorem sameButIds_of_reads (hfirst : Reads playerId first inbox) (hsecond : Reads playerId second inbox) :
    SameButIds playerId (correspondingId (first.chatIds playerId) (second.chatIds playerId)) first second := by
  have hmessages := hsecond.messages.trans hfirst.messages.symm
  have hgroup : ∀ sinceTick, (listVisibleGroupChatMessages (some second.record) playerId sinceTick).Perm
      ((listVisibleGroupChatMessages (some first.record) playerId sinceTick).map
        (MatchGroupChatMessage.rename (correspondingId (first.chatIds playerId) (second.chatIds playerId)))) := by
    intro sinceTick
    unfold listVisibleGroupChatMessages
    simp only
    rw [chatMessages_renamed hfirst hsecond]
    exact (List.perm_insertionSort _ _).trans ((List.perm_insertionSort _ _).map _).symm
  have hlength : (first.chatIds playerId).length = (second.chatIds playerId).length :=
    (chatIds_length hfirst).trans (chatIds_length hsecond).symm
  refine ⟨?_, hmessages, ?_, hgroup, ?_, ?_, hgroup, accepted_renamed hfirst hsecond⟩
  · apply List.inj_on_of_nodup_map
    rw [map_correspondingId (chatIds_nodup hfirst) hlength]
    exact chatIds_nodup hsecond
  · unfold listVisibleGroupChats
    simp only
    rw [chatRecords_renamed hfirst hsecond]
    exact (List.perm_insertionSort _ _).trans ((List.perm_insertionSort _ _).map _).symm
  · intro sinceTick
    exact filter_unnumbered (fun _ => rfl) (filter_unnumbered (fun _ => rfl) hmessages)
  · intro sinceTick
    exact filter_unnumbered (fun _ => rfl) (filter_unnumbered (fun _ => rfl) hmessages)

end Common

/-- Two sequences of operations that bring a player the same, whatever else they do, leave the player with the same to read but for the numbers of messages and the names of group chats. -/
theorem sameButIds_run (matchId playerId : String) {record : MatchRecord}
    (hdistinct : (record.groupChats.map (·.groupChatId)).Nodup) {first second : List MessagingOperation}
    (hsame : Observer.shown (talkStep matchId) (delivered matchId playerId) ⟨record, []⟩ first =
      Observer.shown (talkStep matchId) (delivered matchId playerId) ⟨record, []⟩ second) :
    ∃ name, SameButIds playerId name (first.foldl (talkStep matchId) ⟨record, []⟩)
      (second.foldl (talkStep matchId) ⟨record, []⟩) := by
  have hstart : Reads playerId ⟨record, []⟩
      ⟨(listVisibleMessages (some record) playerId).map MatchMessage.unnumbered,
        (visibleGroupChats record playerId).map MatchGroupChat.unnamed, []⟩ :=
    ⟨hdistinct, rfl, rfl, rfl, fun entry hentry => absurd hentry List.not_mem_nil⟩
  have hhidden : ∀ talk operation inbox, delivered matchId playerId talk operation = none → Reads playerId talk inbox →
      Reads playerId (talkStep matchId talk operation) inbox := by
    intro talk operation inbox hhidden h
    simpa only [hhidden] using reads_step matchId h operation
  have hshown : ∀ talk operation delivery inbox, delivered matchId playerId talk operation = some delivery →
      Reads playerId talk inbox → Reads playerId (talkStep matchId talk operation) (inbox.deliver playerId delivery) := by
    intro talk operation delivery inbox hshown h
    simpa only [hshown] using reads_step matchId h operation
  obtain ⟨inbox, hfirst, hsecond⟩ := Observer.common_view hhidden hshown hstart hsame
  exact ⟨_, sameButIds_of_reads hfirst hsecond⟩

/-- The duel with a third player. -/
def trioRecord : MatchRecord :=
  .ofState "duel" .active
    { duelState with
      players := OrdDict.ofList
        [("p1", duelPlayer "london"), ("p2", duelPlayer "southampton"),
          ("p3", { duelPlayer "london" with citiesOwned := [] })] }

def trioWhisper : MessagingOperation := .message "p2" ⟨0, .direct, some "p3", "Between us."⟩

def trioAnnouncement : MessagingOperation := .message "p1" ⟨0, .world, none, "To all."⟩

def trioCabal : MessagingOperation := .groupChat "p2" ⟨0, "Cabal", ["p3"]⟩

def trioCouncil : MessagingOperation := .groupChat "p1" ⟨0, "Council", ["p2"]⟩

theorem sameButIds_run_trio :
    ∃ name, SameButIds "p1" name
      ([trioAnnouncement, trioCouncil].foldl (talkStep "duel") ⟨trioRecord, []⟩)
      ([trioWhisper, trioAnnouncement, trioCabal, trioCouncil].foldl (talkStep "duel") ⟨trioRecord, []⟩) :=
  sameButIds_run "duel" "p1" (by decide) rfl

/-- A whisper between two others moves the number of the next announcement. -/
theorem not_listVisibleMessages_purge :
    ¬ ∀ (matchId playerId : String) (record : MatchRecord) (before after : List MessagingOperation)
      (hidden : MessagingOperation),
      delivered matchId playerId (before.foldl (talkStep matchId) ⟨record, []⟩) hidden = none →
        listVisibleMessages (some ((before ++ hidden :: after).foldl (talkStep matchId) ⟨record, []⟩).record) playerId =
          listVisibleMessages (some ((before ++ after).foldl (talkStep matchId) ⟨record, []⟩).record) playerId := by
  intro h
  exact absurd (h "duel" "p1" trioRecord [] [trioAnnouncement] trioWhisper rfl) (by decide +kernel)

end IronCouncil
