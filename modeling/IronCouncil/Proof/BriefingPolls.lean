import IronCouncil.Proof.Authorship
import IronCouncil.Proof.GuidanceDelivery
import IronCouncil.Proof.MatchLog

/-!
# Nothing is missed between briefings

A client that asks for what is new since the tick of its last briefing hears of every message it could read, and hears twice of those of that tick at most. For what is posted is dated with the tick of the match, and no match goes back in time.
-/

namespace IronCouncil

/-! ### Posts -/

/-- A message of a briefing, of any bucket. -/
inductive BriefingPost
  | direct (message : MatchMessage)
  | group (message : MatchGroupChatMessage)
  | world (message : MatchMessage)
deriving DecidableEq, Repr

def BriefingPost.tick : BriefingPost → Nat
  | .direct message => message.tick
  | .group message => message.tick
  | .world message => message.tick

def AgentBriefingMessageBuckets.posts (buckets : AgentBriefingMessageBuckets) : List BriefingPost :=
  buckets.direct.map .direct ++ buckets.group.map .group ++ buckets.world.map .world

/-- All that a player can read in a record. -/
def MatchRecord.postsFor (record : MatchRecord) (playerId : String) : List BriefingPost :=
  (listBriefingMessages (some record) playerId none).posts

/-- Whatever can be read in the next record could be read in the record, or is of the tick. -/
def Hears (tick : Nat) (record next : MatchRecord) : Prop :=
  ∀ playerId, ∀ post ∈ next.postsFor playerId, post ∈ record.postsFor playerId ∨ post.tick = tick

section Posts

variable {record next last : MatchRecord} {playerId matchId : String} {tick : Nat}

theorem mem_posts_direct {buckets : AgentBriefingMessageBuckets} {message : MatchMessage} :
    .direct message ∈ buckets.posts ↔ message ∈ buckets.direct := by
  simp [AgentBriefingMessageBuckets.posts]

theorem mem_posts_group {buckets : AgentBriefingMessageBuckets} {message : MatchGroupChatMessage} :
    .group message ∈ buckets.posts ↔ message ∈ buckets.group := by
  simp [AgentBriefingMessageBuckets.posts]

theorem mem_posts_world {buckets : AgentBriefingMessageBuckets} {message : MatchMessage} :
    .world message ∈ buckets.posts ↔ message ∈ buckets.world := by
  simp [AgentBriefingMessageBuckets.posts]

theorem mem_listVisibleGroupChatMessages {sinceTick : Option Nat} {message : MatchGroupChatMessage} :
    message ∈ listVisibleGroupChatMessages (some record) playerId sinceTick ↔
      ∃ groupChat ∈ record.groupChats, playerId ∈ groupChat.memberIds ∧
        ∃ posted ∈ groupChat.messages, isSince sinceTick posted.tick = true ∧
          { posted with groupChatId := groupChat.groupChatId } = message := by
  unfold listVisibleGroupChatMessages
  simp only [List.mem_insertionSort, List.mem_flatMap, visibleGroupChats, groupChatMessageRecords, List.mem_filter,
    List.mem_map, decide_eq_true_eq, and_assoc]

theorem mem_postsFor_direct {message : MatchMessage} :
    .direct message ∈ record.postsFor playerId ↔
      message ∈ record.messages ∧ isVisibleMessage playerId message = true ∧ message.channel = .direct := by
  unfold MatchRecord.postsFor
  rw [mem_posts_direct]
  simp only [listBriefingMessages, listVisibleMessages, isSince, List.mem_filter, decide_eq_true_eq, Option.all_none, and_true,
    and_assoc]

theorem mem_postsFor_world {message : MatchMessage} :
    .world message ∈ record.postsFor playerId ↔ message ∈ record.messages ∧ message.channel = .world := by
  unfold MatchRecord.postsFor
  rw [mem_posts_world]
  simp only [listBriefingMessages, listVisibleMessages, isSince, List.mem_filter, decide_eq_true_eq, Option.all_none, and_true,
    and_assoc]
  refine and_congr_right fun _ => and_iff_right_of_imp fun hworld => ?_
  simp [isVisibleMessage, hworld]

theorem mem_postsFor_group {message : MatchGroupChatMessage} :
    .group message ∈ record.postsFor playerId ↔
      ∃ groupChat ∈ record.groupChats, playerId ∈ groupChat.memberIds ∧
        ∃ posted ∈ groupChat.messages, { posted with groupChatId := groupChat.groupChatId } = message := by
  unfold MatchRecord.postsFor
  rw [mem_posts_group]
  refine mem_listVisibleGroupChatMessages.trans ?_
  simp [isSince]

/-- A briefing since a tick holds the posts from that tick on. -/
theorem mem_posts_since {sinceTick : Option Nat} {post : BriefingPost} :
    post ∈ (listBriefingMessages (some record) playerId sinceTick).posts ↔
      post ∈ record.postsFor playerId ∧ isSince sinceTick post.tick = true := by
  cases post with
  | direct message =>
      rw [mem_posts_direct, mem_postsFor_direct]
      simp only [listBriefingMessages, listVisibleMessages, List.mem_filter, decide_eq_true_eq, BriefingPost.tick]
      tauto
  | group message =>
      rw [mem_posts_group, mem_postsFor_group]
      refine mem_listVisibleGroupChatMessages.trans ?_
      constructor
      · intro h
        obtain ⟨groupChat, hchat, hmember, posted, hposted, hsince, rfl⟩ := h
        exact ⟨⟨groupChat, hchat, hmember, posted, hposted, rfl⟩, hsince⟩
      · intro h
        obtain ⟨hread, hsince⟩ := h
        obtain ⟨groupChat, hchat, hmember, posted, hposted, rfl⟩ := hread
        exact ⟨groupChat, hchat, hmember, posted, hposted, hsince, rfl⟩
  | world message =>
      rw [mem_posts_world, mem_postsFor_world]
      simp only [listBriefingMessages, listVisibleMessages, List.mem_filter, decide_eq_true_eq, BriefingPost.tick]
      constructor
      · exact fun h => ⟨⟨h.1.1.1, h.2⟩, h.1.2⟩
      · exact fun h => ⟨⟨⟨h.1.1, by simp [isVisibleMessage, h.1.2]⟩, h.2⟩, h.1.2⟩

theorem postsFor_congr (hmessages : next.messages = record.messages) (hchats : next.groupChats = record.groupChats) :
    next.postsFor = record.postsFor := by
  funext playerId
  simp only [MatchRecord.postsFor, listBriefingMessages, listVisibleMessages, listVisibleGroupChatMessages, visibleGroupChats,
    hmessages, hchats]

theorem Hears.of_eq (h : next.postsFor = record.postsFor) : Hears tick record next := fun playerId _ hpost =>
  Or.inl (congrFun h playerId ▸ hpost)

theorem Hears.trans (h : Hears tick record next) (h' : Hears tick next last) : Hears tick record last := by
  intro playerId post hpost
  rcases h' playerId post hpost with hbefore | hnew
  · exact h playerId post hbefore
  · exact Or.inr hnew

theorem hears_message {stored : MatchMessage} (htick : stored.tick = tick)
    (hmessages : next.messages = record.messages ++ [stored]) (hchats : next.groupChats = record.groupChats) :
    Hears tick record next := by
  intro playerId post hpost
  cases post with
  | direct message =>
      rw [mem_postsFor_direct, hmessages, List.mem_append, List.mem_singleton] at hpost
      rcases hpost with ⟨hbefore | rfl, hvisible⟩
      · exact Or.inl (mem_postsFor_direct.2 ⟨hbefore, hvisible⟩)
      · exact Or.inr htick
  | group message =>
      rw [mem_postsFor_group, hchats] at hpost
      exact Or.inl (mem_postsFor_group.2 hpost)
  | world message =>
      rw [mem_postsFor_world, hmessages, List.mem_append, List.mem_singleton] at hpost
      rcases hpost with ⟨hbefore | rfl, hvisible⟩
      · exact Or.inl (mem_postsFor_world.2 ⟨hbefore, hvisible⟩)
      · exact Or.inr htick

theorem hears_groupChats (hmessages : next.messages = record.messages)
    (hgroup : ∀ playerId message, .group message ∈ next.postsFor playerId →
      .group message ∈ record.postsFor playerId ∨ message.tick = tick) : Hears tick record next := by
  intro playerId post hpost
  cases post with
  | direct message =>
      rw [mem_postsFor_direct, hmessages] at hpost
      exact Or.inl (mem_postsFor_direct.2 hpost)
  | group message => exact hgroup playerId message hpost
  | world message =>
      rw [mem_postsFor_world, hmessages] at hpost
      exact Or.inl (mem_postsFor_world.2 hpost)

theorem hears_createGroupChat (record : MatchRecord) (request : GroupChatCreateRequest) (creatorId : String) (tick : Nat) :
    Hears tick record (createGroupChat record request creatorId).1 := by
  refine hears_groupChats rfl fun playerId message hpost => ?_
  obtain ⟨groupChat, hchat, hmember, posted, hposted, rfl⟩ := mem_postsFor_group.1 hpost
  rcases List.mem_append.1 hchat with hbefore | hcreated
  · exact Or.inl (mem_postsFor_group.2 ⟨groupChat, hbefore, hmember, posted, hposted, rfl⟩)
  · rw [List.mem_singleton.1 hcreated] at hposted
    exact absurd hposted List.not_mem_nil

theorem hears_recordGroupChatMessage {groupChatId senderId : String} {request : GroupChatMessageCreateRequest}
    {stored : MatchGroupChatMessage} (h : recordGroupChatMessage record groupChatId request senderId = .ok (next, stored)) :
    Hears request.tick record next := by
  unfold recordGroupChatMessage at h
  split at h
  · cases h
  · rename_i found hmember
    cases h
    refine hears_groupChats rfl fun playerId message hpost => ?_
    obtain ⟨groupChat, hchat, hreader, posted, hposted, rfl⟩ := mem_postsFor_group.1 hpost
    rcases List.mem_modifyFirstWhere hchat with hkept | ⟨spoken, hspoken, -, rfl⟩
    · exact Or.inl (mem_postsFor_group.2 ⟨groupChat, hkept, hreader, posted, hposted, rfl⟩)
    · rcases List.mem_append.1 hposted with hbefore | hnew
      · exact Or.inl (mem_postsFor_group.2 ⟨spoken, hspoken, hreader, posted, hbefore, rfl⟩)
      · rw [List.mem_singleton.1 hnew]
        exact Or.inr rfl

theorem hears_recordMessage {senderId : String} {request : MatchMessageCreateRequest} {stored : MatchMessage}
    (h : recordMessage record matchId request senderId = .ok (next, stored)) : Hears request.tick record next := by
  unfold recordMessage at h
  split at h
  · cases h
  · cases h
    exact hears_message rfl rfl rfl

theorem hears_postCommandMessage {message : AgentCommandMessage} {acceptance : MessageAcceptance}
    (h : postCommandMessage matchId playerId tick record message = .ok (next, acceptance)) : Hears tick record next := by
  unfold postCommandMessage at h
  split at h
  · cases h
  · dsimp only at h
    split at h
    · obtain ⟨posted, hposted, heq⟩ := Except.map_eq_ok h
      cases heq
      exact hears_recordGroupChatMessage hposted
    · obtain ⟨posted, hposted, heq⟩ := Except.map_eq_ok h
      cases heq
      exact hears_recordMessage hposted
    · obtain ⟨posted, hposted, heq⟩ := Except.map_eq_ok h
      cases heq
      exact hears_recordMessage hposted

/-- Treaties are announced at the tick of the match. -/
theorem hears_treaty {action : TreatyActionRequest} {stored : MatchTreaty}
    (h : applyTreatyAction record action playerId = .ok (next, stored)) : Hears record.state.tick record next := by
  unfold applyTreatyAction at h
  dsimp only at h
  split at h
  · unfold proposeTreaty at h
    split at h
    · cases h
    · cases h
      exact .of_eq (postsFor_congr rfl rfl)
  · cases h
  · cases h
  · unfold acceptTreaty at h
    split at h
    · cases h
    · cases h
      exact hears_message rfl rfl rfl
  · unfold withdrawTreaty at h
    split at h
    · cases h
    · cases h
      exact hears_message rfl rfl rfl

theorem hears_alliance {action : AllianceActionRequest} {response : Option MatchAlliance}
    (h : applyAllianceAction record matchId action playerId = .ok (next, response)) : Hears tick record next := by
  obtain ⟨alliances, allianceId, rfl, -⟩ := applyAllianceAction_eq_ok h
  exact .of_eq (postsFor_congr rfl rfl)

/-! ### Requests and ticks -/

/-- A part of a request keeps the tick, and posts are of the tick. -/
def PostsAt (tick : Nat) (record next : MatchRecord) : Prop :=
  record.state.tick = tick → next.state.tick = tick ∧ Hears tick record next

theorem postsAt_of_reaches (h : Relation.ReflTransGen (PostsAt tick) record next) : PostsAt tick record next := by
  intro htick
  induction h with
  | refl => exact ⟨htick, .of_eq rfl⟩
  | tail _ hlast ih =>
      obtain ⟨hkept, hheard⟩ := hlast ih.1
      exact ⟨hkept, ih.2.trans hheard⟩

theorem hears_envelope {command : AgentCommandEnvelopeRequest} {response : AgentCommandEnvelopeResponse}
    (htick : command.tick = record.state.tick) (h : applyCommandEnvelope record matchId command playerId = .ok (next, response)) :
    Hears command.tick record next := by
  unfold applyCommandEnvelope at h
  split at h
  · cases h
  · unfold applyCommandEnvelopeMutations at h
    dsimp only at h
    split at h
    · cases h
    · rename_i posted messages hmessages
      split at h
      · cases h
      · rename_i negotiated treaties htreaties
        split at h
        · cases h
        · rename_i allied alliance halliance
          cases h
          have hordered : PostsAt command.tick record (recordCommandOrders record matchId command playerId).1 := by
            unfold recordCommandOrders
            split
            · exact fun hrecord => ⟨hrecord, .of_eq (postsFor_congr rfl rfl)⟩
            · exact fun hrecord => ⟨hrecord, .of_eq rfl⟩
          have hposted : PostsAt command.tick (recordCommandOrders record matchId command playerId).1 posted := by
            refine postsAt_of_reaches (applyEach_reaches (fun before message after acceptance hpost hbefore => ?_) hmessages)
            obtain ⟨posts, groupChats, hafter⟩ := postCommandMessage_posted hpost
            exact ⟨(congrArg (fun record => record.state.tick) hafter).trans hbefore, hears_postCommandMessage hpost⟩
          have hnegotiated : PostsAt command.tick posted negotiated := by
            refine postsAt_of_reaches (applyEach_reaches (fun before action after stored htreaty hbefore => ?_) htreaties)
            have haction := (applyCommandTreaty_eq_ok htreaty).2
            obtain ⟨changed, posts, hafter⟩ := applyTreatyAction_frame haction
            refine ⟨(congrArg (fun record => record.state.tick) hafter).trans hbefore, ?_⟩
            rw [← hbefore]
            exact hears_treaty haction
          have hallied : Hears command.tick negotiated next := by
            unfold applyCommandAlliance at halliance
            split at halliance
            · cases halliance
              exact .of_eq rfl
            · obtain ⟨applied, happlied, heq⟩ := Except.map_eq_ok halliance
              cases heq
              exact hears_alliance happlied
          have hbegun := hordered htick.symm
          have hspoken := hposted hbegun.1
          exact ((hbegun.2.trans hspoken.2).trans (hnegotiated hspoken.1).2).trans hallied

/-- The routes let nothing be posted but at the tick of the match. -/
theorem hears_write {request : MatchWrite} {accepted : CommandAcceptance}
    (h : applyMatchWrite record matchId playerId request = .ok (next, accepted)) : Hears record.state.tick record next := by
  cases request with
  | orders tick orders =>
      obtain ⟨submitted, hsubmitted, heq⟩ := Except.map_eq_ok h
      cases heq
      unfold submitOrders at hsubmitted
      split at hsubmitted
      · cases hsubmitted
      · cases hsubmitted
        exact .of_eq (postsFor_congr rfl rfl)
  | command command =>
      obtain ⟨applied, happlied, heq⟩ := Except.map_eq_ok h
      cases heq
      unfold postMatchCommand at happlied
      split at happlied
      · cases happlied
      · rename_i htick
        split at happlied
        · cases happlied
        · rename_i envelope henvelope
          cases happlied
          rw [← not_not.1 htick]
          exact hears_envelope (not_not.1 htick) henvelope
  | message message =>
      obtain ⟨hcheck, happlied⟩ := applyChecked_eq_ok h
      obtain ⟨posted, hposted, heq⟩ := Except.map_eq_ok happlied
      cases heq
      unfold checkMessage at hcheck
      split at hcheck
      · cases hcheck
      · rename_i htick
        rw [← not_not.1 htick]
        exact hears_recordMessage hposted
  | groupChat groupChat =>
      cases (applyChecked_eq_ok h).2
      exact hears_createGroupChat record groupChat playerId _
  | groupChatMessage groupChatId message =>
      obtain ⟨hcheck, happlied⟩ := applyChecked_eq_ok h
      obtain ⟨posted, hposted, heq⟩ := Except.map_eq_ok happlied
      cases heq
      unfold checkGroupChatMessage at hcheck
      split at hcheck
      · cases hcheck
      · rename_i htick
        rw [← not_not.1 htick]
        exact hears_recordGroupChatMessage hposted
  | treaty action =>
      obtain ⟨applied, happlied, heq⟩ := Except.map_eq_ok (applyMatchWrite_eq_ok h)
      cases heq
      exact hears_treaty happlied
  | alliance action =>
      obtain ⟨applied, happlied, heq⟩ := Except.map_eq_ok (applyMatchWrite_eq_ok h)
      cases heq
      exact hears_alliance happlied

/-- A tick announces broken treaties, under the tick that it resolves. -/
theorem hears_advanceMatchTick (record : MatchRecord) : Hears record.state.tick record (advanceMatchTick record).1 := by
  have hbroken : ∀ orders, Hears record.state.tick record
      (reconcileHostileTreatyBreaks (drainQueue record) record.state orders) := by
    intro orders
    have hdrained : Hears record.state.tick record (drainQueue record) := .of_eq (postsFor_congr rfl rfl)
    refine Run.invariant_foldl (I := Hears record.state.tick record) ?_ hdrained _
    intro reached attack hreached
    unfold breakActiveTreatiesBetweenPlayers
    refine Run.invariant_foldl (I := Hears record.state.tick record) ?_ ?_ _
    swap
    · exact hreached.trans (.of_eq (postsFor_congr rfl rfl))
    intro announced treaty hannounced
    exact hannounced.trans (hears_message rfl rfl rfl)
  unfold advanceMatchTick
  dsimp only
  split
  · exact hbroken _
  · exact (hbroken _).trans (.of_eq (postsFor_congr rfl rfl))

end Posts

/-! ### Steps of the server -/

section Steps

variable {hashApiKey : String → String} {variant : StorageVariant} {server : Server} {guided : GuidedServer} {matchId : String}

/-- A live record after a step holds no posts, or comes from the record before it by posts of that record's tick. -/
def PostsFollow (registry registry' : InMemoryMatchRegistry) (matchId : String) : Prop :=
  ∀ next, registry'.getMatch matchId = some next → (∀ playerId, next.postsFor playerId = []) ∨
    ∃ record, registry.getMatch matchId = some record ∧ Hears record.state.tick record next

theorem PostsFollow.of_eq {registry registry' : InMemoryMatchRegistry}
    (h : registry'.getMatch matchId = registry.getMatch matchId) : PostsFollow registry registry' matchId :=
  fun next hnext => Or.inr ⟨next, h ▸ hnext, .of_eq rfl⟩

theorem postsFollow_stored {registry : InMemoryMatchRegistry} {id : String} {record record' : MatchRecord}
    (hrecord : registry.getMatch id = some record) (hheard : Hears record.state.tick record record') (matchId : String) :
    PostsFollow registry (registry.storeMatch id record') matchId := by
  intro next hnext
  have hstored : (registry.storeMatch id record').getMatch matchId =
      if matchId = id then some record' else registry.getMatch matchId := OrdDict.get?_insert _ _ _ _
  rw [hnext] at hstored
  split at hstored
  · rename_i hmatch
    cases hstored
    exact Or.inr ⟨record, hmatch ▸ hrecord, hheard⟩
  · exact Or.inr ⟨next, hstored.symm, .of_eq rfl⟩

theorem postsFollow_commit {database : Database} {record : MatchRecord} (hsilent : ∀ playerId, record.postsFor playerId = [])
    (matchId : String) : PostsFollow server.registry (server.commit database record).registry matchId := by
  intro next hnext
  change (server.registry.seedMatch record).getMatch matchId = some next at hnext
  rw [InMemoryMatchRegistry.getMatch_seedMatch] at hnext
  split at hnext
  · cases hnext
    exact Or.inl hsilent
  · exact Or.inr ⟨next, hnext, .of_eq rfl⟩

theorem postsFollow_hostStep {event : ServerEvent} (hhost : event.isCommand = false) (matchId : String) :
    PostsFollow server.registry (serverStep hashApiKey variant server event).registry matchId := by
  have heffect : ServerEffect hashApiKey variant server event (serverStep hashApiKey variant server event) :=
    serverStep_effect server event
  generalize serverStep hashApiKey variant server event = next at heffect
  cases heffect with
  | refused => exact .of_eq rfl
  | keyCreated hfresh hadd => exact .of_eq rfl
  | keyRevoked hrevoked => exact .of_eq rfl
  | lobbyCreated hcreate =>
      obtain ⟨state, creator, agent, matchRows, -, -, -, -, hrecord⟩ := createMatchLobby_eq_ok hcreate
      exact postsFollow_commit (fun _ => by rw [hrecord]; rfl) matchId
  | joined hjoin =>
      obtain ⟨row, -, -, hrecord⟩ := joinDbMatch_eq_ok hjoin
      exact postsFollow_commit (fun _ => by rw [hrecord]; rfl) matchId
  | started hstart =>
      obtain ⟨row, -, -, -, -, hrecord⟩ := startMatchLobby_eq_ok hstart
      exact postsFollow_commit (fun _ => by rw [hrecord]; rfl) matchId
  | commanded hrecord hcommand => cases hhost
  | tickIdle hrecord => exact postsFollow_stored hrecord (.of_eq rfl) matchId
  | tickRaised hrecord hactive htick => exact postsFollow_stored hrecord (hears_advanceMatchTick _) matchId
  | @ticked _ _ _ record advancedTick _ hrecord hactive htick hpersist =>
      refine postsFollow_stored hrecord ?_ matchId
      exact (hears_advanceMatchTick record).trans (.of_eq (postsFor_congr rfl rfl))
  | hydrated hload =>
      intro loaded hloaded
      have hfound := (getMatch_loadMatchRegistryFromDatabase hload matchId).symm.trans hloaded
      obtain ⟨row, -, rfl⟩ := Option.map_eq_some_iff.1 hfound
      exact Or.inl fun _ => rfl

theorem postsFollow_apiStep (guided : GuidedServer) (event : ApiEvent) (matchId : String) :
    PostsFollow guided.registry (apiStep hashApiKey variant guided event).registry matchId := by
  have heffect : ApiEffect hashApiKey variant guided event (apiStep hashApiKey variant guided event) :=
    apiStep_effect guided event
  generalize apiStep hashApiKey variant guided event = next at heffect
  cases heffect with
  | refused => exact .of_eq rfl
  | host event => exact postsFollow_hostStep event.2 matchId
  | written hrecord hplayer hwrite => exact postsFollow_stored hrecord (hears_write hwrite) matchId
  | advised => exact .of_eq rfl
  | @overridden request orders record seat supersededCount overrides hrecord htick hseat hadd =>
      have hheard : Hears record.state.tick record (replacePlayerSubmissions record seat.playerId request.tick
          ⟨record.matchId, seat.playerId, request.tick, orders⟩).1 := .of_eq (postsFor_congr rfl rfl)
      exact postsFollow_stored hrecord hheard matchId

/-- Seen from a match, a request is a step of the server. -/
theorem matchStep_apiStep {P : String → MatchState → Prop} {Q : MatchRecord → Prop} (hholds : guided.Holds P Q)
    (event : ApiEvent) (matchId : String) :
    MatchStep guided.toServer (apiStep hashApiKey variant guided event).toServer matchId := by
  have heffect : ApiEffect hashApiKey variant guided event (apiStep hashApiKey variant guided event) :=
    apiStep_effect guided event
  generalize apiStep hashApiKey variant guided event = next at heffect
  cases heffect with
  | refused => exact .same rfl rfl rfl
  | host event => exact matchStep_serverStep hholds event.1 matchId
  | @written _ id playerId request record applied accepted hrecord hplayer hwrite =>
      have hstep : MatchStep guided.toServer (serverStep hashApiKey variant guided.toServer
          (.command id playerId (commandOfWrite request))) matchId := matchStep_serverStep hholds _ matchId
      rw [serverStep_of_write hrecord hwrite] at hstep
      exact hstep
  | advised => exact .same rfl rfl rfl
  | @overridden request orders record seat supersededCount overrides hrecord htick hseat hadd =>
      have hsame : Negotiated record.state (replacePlayerSubmissions record seat.playerId request.tick
          ⟨record.matchId, seat.playerId, request.tick, orders⟩).1.state := .refl _
      exact matchStep_store (guided.storeRecord request.matchId _) hrecord hsame rfl rfl matchId

/-! ### Dates -/

/-- A live record is at the tick of its row, and holds no post from later on. -/
structure Server.Dated (server : Server) : Prop where
  live : ∀ matchId record, server.registry.getMatch matchId = some record →
    ∃ row, server.database.matchRows.get? matchId = some row ∧ record.state.tick = row.state.tick
  posts : ∀ matchId record, server.registry.getMatch matchId = some record →
    ∀ playerId, ∀ post ∈ record.postsFor playerId, post.tick ≤ record.state.tick

/-- No match goes back in time. -/
theorem rowTick_le {next : Server} {row : MatchRow} (h : server.Dated) (hstep : MatchStep server next matchId)
    (hrow : server.database.matchRows.get? matchId = some row) :
    ∃ row', next.database.matchRows.get? matchId = some row' ∧ row.state.tick ≤ row'.state.tick := by
  cases hstep with
  | kept hsame hlog hlive => exact ⟨row, hsame.trans hrow, le_rfl⟩
  | created hnone hstate hcreated hlog hlive => cases hnone.symm.trans hrow
  | loaded hfound hstatus hloaded hlog hlive =>
      cases hfound.symm.trans hrow
      exact ⟨_, hloaded, le_rfl⟩
  | @ticked record found advancedTick winnerAlliance hrecord hactive htick hfound hrunning hticked hlog hlive =>
      cases hfound.symm.trans hrow
      obtain ⟨behind, hbehind, hdate⟩ := h.live matchId record hrecord
      cases hrow.symm.trans hbehind
      obtain ⟨-, hstate, hresolved, -⟩ := advanceRegistryTick_eq_ok htick
      have hnext : advancedTick.nextState.tick = record.state.tick + 1 :=
        ((congrArg MatchState.tick hstate).trans hresolved.symm).trans (loggedTick_of_advanced (.refl _) htick).next_tick
      refine ⟨_, hticked, ?_⟩
      change row.state.tick ≤ advancedTick.nextState.tick
      omega

theorem Server.Dated.step {next : Server} (h : server.Dated) (hsteps : ∀ matchId, MatchStep server next matchId)
    (hposts : ∀ matchId, PostsFollow server.registry next.registry matchId) : next.Dated := by
  have hlive : ∀ matchId record, next.registry.getMatch matchId = some record →
      ∃ row, next.database.matchRows.get? matchId = some row ∧ record.state.tick = row.state.tick := by
    intro matchId record hrecord
    cases hsteps matchId with
    | kept hsame hlog hlive =>
        obtain ⟨before, hbefore, hnegotiated⟩ := hlive record hrecord
        obtain ⟨row, hrow, hdate⟩ := h.live matchId before hbefore
        exact ⟨row, hsame.trans hrow, hnegotiated.tick_eq.trans hdate⟩
    | created hnone hstate hrow hlog hlive => exact ⟨_, hrow, congrArg MatchState.tick (hlive record hrecord)⟩
    | loaded hrow hstatus hrow' hlog hlive => exact ⟨_, hrow', congrArg MatchState.tick (hlive record hrecord)⟩
    | ticked hbefore hactive htick hrow hrunning hrow' hlog hlive =>
        exact ⟨_, hrow', congrArg MatchState.tick (hlive record hrecord)⟩
  refine ⟨hlive, ?_⟩
  intro matchId record hrecord playerId post hpost
  rcases hposts matchId record hrecord with hsilent | ⟨before, hbefore, hheard⟩
  · rw [hsilent playerId] at hpost
    exact absurd hpost List.not_mem_nil
  · obtain ⟨row, hrow, hdate⟩ := h.live matchId before hbefore
    obtain ⟨row', hrow', hle⟩ := rowTick_le h (hsteps matchId) hrow
    obtain ⟨found, hfound, hdate'⟩ := hlive matchId record hrecord
    cases hfound.symm.trans hrow'
    have hlater : before.state.tick ≤ record.state.tick := by omega
    rcases hheard playerId post hpost with hread | hnew
    · exact (h.posts matchId before hbefore playerId post hread).trans hlater
    · omega

end Steps

/-! ### A client that follows a match -/

/-- A server, and the briefings that one key has been given of one match. -/
structure Follower where
  server : GuidedServer
  briefings : List AgentBriefingResponse

/-- The tick of the last briefing. -/
def Follower.sinceTick (follower : Follower) : Option Nat :=
  follower.briefings.getLast?.map fun briefing => briefing.state.tick

def Follower.received (follower : Follower) : List BriefingPost :=
  follower.briefings.flatMap fun briefing => briefing.messages.posts

inductive FollowerEvent
  | api (event : ApiEvent)
  | poll

section Followers

variable (hashApiKey : String → String) (variant : StorageVariant) (apiKey matchId : String)

def Follower.poll (follower : Follower) : Except ReadError AgentBriefingResponse :=
  follower.server.getAgentBriefing hashApiKey variant (some apiKey) matchId follower.sinceTick

/-- Requests of anyone, and polls for what is new. -/
def followerStep (follower : Follower) : FollowerEvent → Follower
  | .api event => { follower with server := apiStep hashApiKey variant follower.server event }
  | .poll =>
      match follower.poll hashApiKey variant apiKey matchId with
      | .error _ => follower
      | .ok briefing => { follower with briefings := follower.briefings ++ [briefing] }

/-- What can be read and was not received is of the tick of the last briefing or later; what was received is not of a later tick. -/
structure CaughtUp (server : Server) (received : List BriefingPost) (sinceTick : Nat) : Prop where
  row : ∃ row, server.database.matchRows.get? matchId = some row ∧ sinceTick ≤ row.state.tick
  seat : ∃ agentId playerId, HashesFor hashApiKey server.database (hashApiKey apiKey) agentId ∧
    Sits hashApiKey server.database matchId (.agent agentId) playerId ∧
    ∀ record, server.registry.getMatch matchId = some record → ∀ post ∈ record.postsFor playerId,
      post ∈ received ∨ sinceTick ≤ post.tick
  dated : ∀ post ∈ received, post.tick ≤ sinceTick

structure Follower.Sound (follower : Follower) : Prop where
  knows : follower.server.KnowsCallers hashApiKey
  holds : follower.server.Holds (fun _ _ => True) fun _ => True
  dates : follower.server.Dated
  caughtUp : ∀ sinceTick, follower.sinceTick = some sinceTick →
    CaughtUp hashApiKey apiKey matchId follower.server.toServer follower.received sinceTick

end Followers

section Polls

variable {hashApiKey : String → String} {variant : StorageVariant} {apiKey matchId : String} {follower : Follower}
  {guided : GuidedServer}

theorem Follower.received_eq_nil (follower : Follower) (h : follower.sinceTick = none) : follower.received = [] := by
  have hnone : follower.briefings = [] := by simpa [Follower.sinceTick] using h
  rw [Follower.received, hnone]
  rfl

theorem anything_kept : KeptByMatches (fun _ _ => True) (fun _ => True) fun _ _ _ => True :=
  ⟨fun _ _ _ _ => trivial, fun _ _ _ _ => trivial, fun _ _ _ _ _ _ _ _ => trivial, fun _ _ => trivial, fun _ _ => trivial⟩

/-- The player that a key is briefed as stays the key's. -/
theorem briefed_player_eq {server : Server} (hknows : server.KnowsCallers hashApiKey) {agent : AuthenticatedAgentContext}
    {agentId playerId playerId' : String} (hagent : server.getAuthenticatedAgent hashApiKey (some apiKey) = .ok agent)
    (hjoined : server.requireJoinedPlayerId matchId agent = .ok playerId)
    (hfor : HashesFor hashApiKey server.database (hashApiKey apiKey) agentId)
    (hsits : Sits hashApiKey server.database matchId (.agent agentId) playerId') : playerId = playerId' := by
  have hsame : agent.agentId = agentId := (hknows.hashesFor (getAuthenticatedAgent_eq_ok hagent)).unique hfor
  exact (Sits.eq_iff hknows.seats (hknows.sits_agent hjoined) hsits).1 (congrArg Occupant.agent hsame)

/-- What a request leaves unread is of the tick of the match at the request. -/
theorem CaughtUp.apiStep {received : List BriefingPost} {sinceTick : Nat} (hknows : guided.KnowsCallers hashApiKey)
    (hdates : guided.Dated) (event : ApiEvent) (hsteps : MatchStep guided.toServer
      (apiStep hashApiKey variant guided event).toServer matchId)
    (h : CaughtUp hashApiKey apiKey matchId guided.toServer received sinceTick) :
    CaughtUp hashApiKey apiKey matchId (apiStep hashApiKey variant guided event).toServer received sinceTick := by
  have hgrown : SeatsGrow hashApiKey guided.database (IronCouncil.apiStep hashApiKey variant guided event).database :=
    seatsGrow_apiStep hknows event
  have hposts : PostsFollow guided.registry (IronCouncil.apiStep hashApiKey variant guided event).registry matchId :=
    postsFollow_apiStep guided event matchId
  obtain ⟨⟨row, hrow, hsince⟩, ⟨agentId, playerId, hfor, hsits, hread⟩, hdated⟩ := h
  refine ⟨?_, ⟨agentId, playerId, hfor.kept hgrown.keys, hsits.of_subset (hgrown.seats matchId), ?_⟩, hdated⟩
  · obtain ⟨row', hrow', hle⟩ := rowTick_le hdates hsteps hrow
    exact ⟨row', hrow', hsince.trans hle⟩
  · intro record hrecord post hpost
    rcases hposts record hrecord with hsilent | ⟨before, hbefore, hheard⟩
    · rw [hsilent playerId] at hpost
      exact absurd hpost List.not_mem_nil
    · rcases hheard playerId post hpost with hold | hnew
      · exact hread before hbefore post hold
      · obtain ⟨found, hfound, hdate⟩ := hdates.live matchId before hbefore
        cases hrow.symm.trans hfound
        exact Or.inr (by omega)

/-- A poll brings what was not received, and nothing of an earlier tick than the last. -/
theorem Follower.Sound.poll (h : follower.Sound hashApiKey apiKey matchId) {briefing : AgentBriefingResponse}
    (hpoll : follower.poll hashApiKey variant apiKey matchId = .ok briefing) :
    ∃ record, follower.server.registry.getMatch matchId = some record ∧ briefing.state.tick = record.state.tick ∧
      (∀ post ∈ record.postsFor briefing.playerId, post ∈ follower.received ∨ post ∈ briefing.messages.posts) ∧
      (∀ post ∈ briefing.messages.posts, post ∈ record.postsFor briefing.playerId) ∧
      ∀ post ∈ briefing.messages.posts, post ∈ follower.received → follower.sinceTick = some post.tick := by
  obtain ⟨agent, record, guidance, hagent, hrecord, hjoined, -, -, hmessages, htick⟩ := getAgentBriefing_eq_ok hpoll
  refine ⟨record, hrecord, htick, ?_, ?_, ?_⟩
  · intro post hpost
    rw [hmessages, mem_posts_since]
    cases hsince : follower.sinceTick with
    | none => exact Or.inr ⟨hpost, rfl⟩
    | some sinceTick =>
        obtain ⟨-, ⟨agentId, playerId, hfor, hsits, hread⟩, -⟩ := h.caughtUp sinceTick hsince
        have hsame := briefed_player_eq h.knows hagent hjoined hfor hsits
        rcases hread record hrecord post (hsame ▸ hpost) with hreceived | hlater
        · exact Or.inl hreceived
        · exact Or.inr ⟨hpost, decide_eq_true hlater⟩
  · intro post hpost
    rw [hmessages, mem_posts_since] at hpost
    exact hpost.1
  · intro post hpost hreceived
    rw [hmessages, mem_posts_since] at hpost
    cases hsince : follower.sinceTick with
    | none =>
        rw [follower.received_eq_nil hsince] at hreceived
        exact absurd hreceived List.not_mem_nil
    | some sinceTick =>
        have hearlier := (h.caughtUp sinceTick hsince).dated post hreceived
        have hlater : sinceTick ≤ post.tick := by
          rw [hsince] at hpost
          exact of_decide_eq_true hpost.2
        exact congrArg some (le_antisymm hlater hearlier)

/-- What was received was posted before the tick that the row is at. -/
theorem Follower.Sound.received_le (h : follower.Sound hashApiKey apiKey matchId) {row : MatchRow}
    (hrow : follower.server.database.matchRows.get? matchId = some row) :
    ∀ post ∈ follower.received, post.tick ≤ row.state.tick := by
  intro post hpost
  cases hsince : follower.sinceTick with
  | none =>
      rw [follower.received_eq_nil hsince] at hpost
      exact absurd hpost List.not_mem_nil
  | some sinceTick =>
      obtain ⟨⟨found, hfound, hle⟩, -, hdated⟩ := h.caughtUp sinceTick hsince
      cases hrow.symm.trans hfound
      exact (hdated post hpost).trans hle

theorem Follower.Sound.step (h : follower.Sound hashApiKey apiKey matchId) (event : FollowerEvent) :
    (followerStep hashApiKey variant apiKey matchId follower event).Sound hashApiKey apiKey matchId := by
  cases event with
  | api event =>
      have hsteps : ∀ matchId, MatchStep follower.server.toServer (apiStep hashApiKey variant follower.server event).toServer
          matchId := matchStep_apiStep h.holds event
      refine ⟨knowsCallers_apiStep h.knows event, holds_apiStep anything_kept (fun _ _ _ _ _ => trivial) h.holds event,
        h.dates.step hsteps (postsFollow_apiStep follower.server event), ?_⟩
      exact fun sinceTick hsince => (h.caughtUp sinceTick hsince).apiStep h.knows h.dates event (hsteps matchId)
  | poll =>
      unfold followerStep
      dsimp only
      cases hpoll : follower.poll hashApiKey variant apiKey matchId with
      | error error => exact h
      | ok briefing =>
          obtain ⟨record, hrecord, htick, hcomplete, hread, -⟩ := h.poll hpoll
          obtain ⟨agent, -, -, hagent, -, hjoined, -⟩ := getAgentBriefing_eq_ok hpoll
          obtain ⟨row, hrow, hdate⟩ := h.dates.live matchId record hrecord
          refine ⟨h.knows, h.holds, h.dates, ?_⟩
          intro sinceTick hsince
          have hlast : sinceTick = record.state.tick := by
            rw [Follower.sinceTick, List.getLast?_concat] at hsince
            exact (Option.some.inj hsince).symm.trans htick
          have hreceived : ({ follower with briefings := follower.briefings ++ [briefing] } : Follower).received =
              follower.received ++ briefing.messages.posts := by
            simp [Follower.received]
          rw [hreceived]
          refine ⟨⟨row, hrow, by omega⟩, ⟨agent.agentId, briefing.playerId,
            h.knows.hashesFor (getAuthenticatedAgent_eq_ok hagent), h.knows.sits_agent hjoined, ?_⟩, ?_⟩
          · intro found hfound post hpost
            cases hrecord.symm.trans hfound
            exact Or.inl (List.mem_append.2 (hcomplete post hpost))
          · intro post hpost
            rcases List.mem_append.1 hpost with hold | hnew
            · rw [hlast, hdate]
              exact h.received_le hrow post hold
            · rw [hlast]
              exact h.dates.posts matchId record hrecord briefing.playerId post (hread post hnew)

theorem Server.HoldsNoMatch.sound (hempty : guided.HoldsNoMatch) (hnone : guided.registry = .empty) :
    (Follower.mk guided []).Sound hashApiKey apiKey matchId where
  knows := hempty.knowsCallers hnone
  holds := hempty.holds
  dates := by
    constructor
    all_goals
      intro matchId record hrecord
      rw [hnone] at hrecord
      cases hrecord
  caughtUp := nofun

/-- From a server without matches, whatever else is asked of it: a client that polls for what is new since the tick of its last briefing has, with each briefing, received all that its player can read by then, and what it receives again is of that tick. -/
theorem polls_miss_nothing (hempty : guided.HoldsNoMatch) (hnone : guided.registry = .empty) (events : List FollowerEvent) :
    ∀ reached ∈ Run.states (followerStep hashApiKey variant apiKey matchId) ⟨guided, []⟩ events, ∀ briefing,
      reached.poll hashApiKey variant apiKey matchId = .ok briefing →
        ∃ record, reached.server.registry.getMatch matchId = some record ∧ briefing.state.tick = record.state.tick ∧
          (∀ post ∈ record.postsFor briefing.playerId, post ∈ reached.received ∨ post ∈ briefing.messages.posts) ∧
          ∀ post ∈ briefing.messages.posts, post ∈ record.postsFor briefing.playerId ∧
            (post ∈ reached.received → reached.sinceTick = some post.tick) := by
  intro reached hreached briefing hpoll
  have hsound : reached.Sound hashApiKey apiKey matchId :=
    Run.invariant (I := fun follower : Follower => follower.Sound hashApiKey apiKey matchId)
      (fun _ event hkept => hkept.step event) (hempty.sound hnone) events reached hreached
  obtain ⟨record, hrecord, htick, hcomplete, hread, hagain⟩ := hsound.poll hpoll
  exact ⟨record, hrecord, htick, hcomplete, fun post hpost => ⟨hread post hpost, hagain post hpost⟩⟩

end Polls

/-! ### A greeting, followed -/

/-- A poll, and then a message to the world. -/
def followedGreeting : List FollowerEvent :=
  (agentLobby ++ guestEnters).map .api ++
    [.poll, .api (.write ⟨some (rawApiKey deploymentToken), none⟩ deploymentMatchId deploymentMatchId
      (.message ⟨0, .world, none, "Hello."⟩))]

def greetedFollower : Follower :=
  followedGreeting.foldl (followerStep deploymentHash .sqlite (rawApiKey deploymentToken) deploymentMatchId)
    ⟨guidedDeployment, []⟩

def greetingPost : BriefingPost := .world ⟨0, .world, canonicalPlayerId 1, none, 0, "Hello."⟩

theorem polls_miss_nothing_greeting :
    greetedFollower.sinceTick = some 0 ∧ ∃ briefing,
      greetedFollower.poll deploymentHash .sqlite (rawApiKey deploymentToken) deploymentMatchId = .ok briefing ∧
        greetingPost ∈ briefing.messages.posts := by
  have hpolled : ((greetedFollower.poll deploymentHash .sqlite (rawApiKey deploymentToken) deploymentMatchId).toOption.map
      AgentBriefingResponse.playerId) = some (canonicalPlayerId 1) := by decide +kernel
  have hposted : (greetedFollower.server.registry.getMatch deploymentMatchId).all fun record =>
      greetingPost ∈ record.postsFor (canonicalPlayerId 1) := by decide +kernel
  have hnew : greetingPost ∉ greetedFollower.received := by decide +kernel
  obtain ⟨briefing, hbriefing, hplayer⟩ := Option.map_eq_some_iff.1 hpolled
  refine ⟨by decide +kernel, briefing, eq_ok_of_toOption hbriefing, ?_⟩
  obtain ⟨record, hrecord, -, hcomplete, -⟩ := polls_miss_nothing deployment_holdsNoMatch rfl followedGreeting
    greetedFollower (Run.foldl_mem_states _ _) briefing (eq_ok_of_toOption hbriefing)
  rw [hrecord, Option.all_some, decide_eq_true_iff, ← hplayer] at hposted
  exact (hcomplete greetingPost hposted).resolve_left hnew

end IronCouncil
