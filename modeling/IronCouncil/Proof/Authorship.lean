import IronCouncil.Proof.PlayerCallers
import IronCouncil.Proof.PrivateTalk

/-!
# Whose words a match holds

What a live match holds in a player's name, orders, messages and group chats, came in a request of the player's own caller. Orders may also come from an owner of the caller's key.
-/

namespace IronCouncil

/-! ### The words of a record -/

/-- What can stand in a match in somebody's name. -/
inductive Utterance
  | orders (tick : Nat) (orders : OrderBatch)
  | message (channel : MessageChannel) (recipientId : Option String) (tick : Nat) (content : String)
  | groupChat (name : String) (tick : Nat)
  | groupMessage (groupChatId : String) (tick : Nat) (content : String)
deriving DecidableEq

def OrderEnvelope.word (envelope : OrderEnvelope) : String × Utterance :=
  (envelope.playerId, .orders envelope.tick envelope.orders)

def MatchMessage.word (message : MatchMessage) : String × Utterance :=
  (message.senderId, .message message.channel message.recipientId message.tick message.content)

def MatchGroupChatMessage.word (message : MatchGroupChatMessage) : String × Utterance :=
  (message.senderId, .groupMessage message.groupChatId message.tick message.content)

def MatchGroupChat.words (groupChat : MatchGroupChat) : List (String × Utterance) :=
  (groupChat.createdBy, .groupChat groupChat.name groupChat.createdTick) :: groupChat.messages.map MatchGroupChatMessage.word

/-- Who says what in a record. -/
def MatchRecord.words (record : MatchRecord) : List (String × Utterance) :=
  record.orderSubmissions.map OrderEnvelope.word ++ record.messages.map MatchMessage.word ++
    record.groupChats.flatMap MatchGroupChat.words

/-- The sender of the messages that announce treaties. -/
def announcer : String := "system"

/-- The words that come into the record are the player's and among those that are said, or are announced. -/
def AddsWords (playerId : String) (said : List Utterance) (record next : MatchRecord) : Prop :=
  ∀ word ∈ next.words, word.1 = announcer ∨ word ∈ record.words ∨ (word.1 = playerId ∧ word.2 ∈ said)

section Words

variable {playerId : String} {said said' : List Utterance} {record next last : MatchRecord}

theorem AddsWords.of_subset (h : next.words ⊆ record.words) : AddsWords playerId said record next :=
  fun _ hword => Or.inr (Or.inl (h hword))

theorem AddsWords.refl (record : MatchRecord) : AddsWords playerId said record record :=
  .of_subset (List.Subset.refl _)

theorem AddsWords.trans (h : AddsWords playerId said record next) (h' : AddsWords playerId said' next last) :
    AddsWords playerId (said ++ said') record last := by
  intro word hword
  rcases h' word hword with hannounced | hkept | ⟨hplayer, hsaid⟩
  · exact Or.inl hannounced
  · rcases h word hkept with hannounced | hbefore | ⟨hplayer, hsaid⟩
    · exact Or.inl hannounced
    · exact Or.inr (Or.inl hbefore)
    · exact Or.inr (Or.inr ⟨hplayer, List.mem_append_left _ hsaid⟩)
  · exact Or.inr (Or.inr ⟨hplayer, List.mem_append_right _ hsaid⟩)

theorem mem_words_append_message {stored : MatchMessage} {word : String × Utterance}
    (h : word ∈ ({ record with messages := record.messages ++ [stored] } : MatchRecord).words) :
    word ∈ record.words ∨ word = stored.word := by
  simp only [MatchRecord.words, List.map_append, List.map_cons, List.map_nil, List.mem_append, List.mem_singleton] at h ⊢
  tauto

theorem addsWords_message {stored : MatchMessage} (hsender : stored.senderId = announcer ∨
      (stored.senderId = playerId ∧ stored.word.2 ∈ said)) :
    AddsWords playerId said record { record with messages := record.messages ++ [stored] } := by
  intro word hword
  rcases mem_words_append_message hword with hbefore | rfl
  · exact Or.inr (Or.inl hbefore)
  · rcases hsender with hannounced | hplayer
    · exact Or.inl hannounced
    · exact Or.inr (Or.inr hplayer)

theorem addsWords_submission (record : MatchRecord) (matchId playerId : String) (tick : Nat) (orders : OrderBatch) :
    AddsWords playerId [.orders tick orders] record (recordSubmission record ⟨matchId, playerId, tick, orders⟩).1 := by
  intro word hword
  simp only [recordSubmission, MatchRecord.words, List.map_append, List.map_cons, List.map_nil, List.mem_append,
    List.mem_singleton] at hword
  rcases hword with ((hbefore | rfl) | hbefore) | hbefore
  · exact Or.inr (Or.inl (List.mem_append_left _ (List.mem_append_left _ hbefore)))
  · exact Or.inr (Or.inr ⟨rfl, List.mem_singleton_self _⟩)
  · exact Or.inr (Or.inl (List.mem_append_left _ (List.mem_append_right _ hbefore)))
  · exact Or.inr (Or.inl (List.mem_append_right _ hbefore))

theorem addsWords_recordMessage {matchId : String} {request : MatchMessageCreateRequest} {stored : MatchMessage}
    (h : recordMessage record matchId request playerId = .ok (next, stored)) :
    AddsWords playerId [.message request.channel request.recipientId request.tick request.content] record next := by
  unfold recordMessage at h
  split at h
  · cases h
  · cases h
    exact addsWords_message (Or.inr ⟨rfl, List.mem_singleton_self _⟩)

theorem addsWords_createGroupChat (record : MatchRecord) (request : GroupChatCreateRequest) (playerId : String) :
    AddsWords playerId [.groupChat request.name request.tick] record (createGroupChat record request playerId).1 := by
  intro word hword
  simp only [createGroupChat, MatchRecord.words, MatchGroupChat.words, List.flatMap_append, List.flatMap_cons,
    List.flatMap_nil, List.map_nil, List.append_nil, List.mem_append, List.mem_singleton] at hword
  rcases hword with hbefore | hbefore | rfl
  · exact Or.inr (Or.inl (List.mem_append_left _ (List.mem_append.2 hbefore)))
  · exact Or.inr (Or.inl (List.mem_append_right _ hbefore))
  · exact Or.inr (Or.inr ⟨rfl, List.mem_singleton_self _⟩)

theorem addsWords_recordGroupChatMessage {groupChatId : String} {request : GroupChatMessageCreateRequest}
    {stored : MatchGroupChatMessage} (h : recordGroupChatMessage record groupChatId request playerId = .ok (next, stored)) :
    AddsWords playerId [.groupMessage groupChatId request.tick request.content] record next := by
  unfold recordGroupChatMessage at h
  split at h
  · cases h
  · rename_i groupChat hmember
    cases h
    have hid : groupChat.groupChatId = groupChatId := by
      simpa using List.find?_some (requireGroupChatMember_eq_ok hmember).1
    intro word hword
    rcases List.mem_append.1 hword with hbefore | hchat
    · exact Or.inr (Or.inl (List.mem_append_left _ hbefore))
    · obtain ⟨chat, hchat, hword⟩ := List.mem_flatMap.1 hchat
      rcases List.mem_modifyFirstWhere hchat with hkept | ⟨posted, hposted, -, rfl⟩
      · exact Or.inr (Or.inl (List.mem_append_right _ (List.mem_flatMap.2 ⟨chat, hkept, hword⟩)))
      · simp only [MatchGroupChat.words, List.map_append, List.map_cons, List.map_nil, List.mem_cons, List.mem_append,
          List.not_mem_nil, or_false] at hword
        rcases hword with rfl | hsaid | rfl
        · exact Or.inr (Or.inl (List.mem_append_right _ (List.mem_flatMap.2 ⟨posted, hposted, List.mem_cons_self⟩)))
        · exact Or.inr (Or.inl (List.mem_append_right _ (List.mem_flatMap.2
            ⟨posted, hposted, List.mem_cons_of_mem _ hsaid⟩)))
        · refine Or.inr (Or.inr ⟨rfl, List.mem_singleton.2 ?_⟩)
          rw [MatchGroupChatMessage.word, hid]

/-- Treaties are announced and nothing else is said. -/
theorem addsWords_treaty {action : TreatyActionRequest} {stored : MatchTreaty}
    (h : applyTreatyAction record action playerId = .ok (next, stored)) : AddsWords playerId [] record next := by
  have hannounced : ∀ (treaties : List MatchTreaty) (content : String), AddsWords playerId [] record
      (recordWorldMessage { record with treaties := treaties } record.state.tick content) := by
    intro treaties content
    have hadds : AddsWords playerId [] { record with treaties := treaties }
        (recordWorldMessage { record with treaties := treaties } record.state.tick content) := addsWords_message (Or.inl rfl)
    exact hadds
  unfold applyTreatyAction at h
  dsimp only at h
  split at h
  · unfold proposeTreaty at h
    split at h
    · cases h
    · cases h
      exact .refl record
  · cases h
  · cases h
  · unfold acceptTreaty at h
    split at h
    · cases h
    · cases h
      exact hannounced _ _
  · unfold withdrawTreaty at h
    split at h
    · cases h
    · cases h
      exact hannounced _ _

theorem addsWords_alliance {matchId : String} {action : AllianceActionRequest} {response : Option MatchAlliance}
    (h : applyAllianceAction record matchId action playerId = .ok (next, response)) : AddsWords playerId [] record next := by
  obtain ⟨alliances, allianceId, rfl, -⟩ := applyAllianceAction_eq_ok h
  exact .refl record

end Words

/-! ### Requests -/

def AgentCommandMessage.utterance (tick : Nat) (message : AgentCommandMessage) : Utterance :=
  match message.channel with
  | .group => .groupMessage (message.groupChatId.getD "") tick message.content
  | .world => .message .world message.recipientId tick message.content
  | .direct => .message .direct message.recipientId tick message.content

/-- What a request asks to be said. -/
def utterancesOf : MatchWrite → List Utterance
  | .orders tick orders => [.orders tick orders]
  | .command command =>
      (if commandHasOrders command then [.orders command.tick command.orders] else []) ++
        command.messages.map (AgentCommandMessage.utterance command.tick)
  | .message message => [.message message.channel message.recipientId message.tick message.content]
  | .groupChat groupChat => [.groupChat groupChat.name groupChat.tick]
  | .groupChatMessage groupChatId message => [.groupMessage groupChatId message.tick message.content]
  | .treaty _ => []
  | .alliance _ => []

section Requests

variable {playerId matchId : String} {record next : MatchRecord}

/-- An operation for each item says what its items say. -/
theorem addsWords_applyEach {ι ρ : Type} {operation : MatchRecord → ι → Except RegistryError (MatchRecord × ρ)}
    {said : ι → List Utterance}
    (hoperation : ∀ before item after response, operation before item = .ok (after, response) →
      AddsWords playerId (said item) before after) {items : List ι} {responses : List ρ}
    (h : applyEach operation record items = .ok (next, responses)) :
    AddsWords playerId (items.flatMap said) record next := by
  induction items generalizing record responses with
  | nil =>
      cases h
      exact .refl _
  | cons item items ih =>
      unfold applyEach at h
      split at h
      · cases h
      · rename_i done response hfirst
        split at h
        · cases h
        · rename_i reached rest hrest
          cases h
          exact (hoperation record item done response hfirst).trans (ih hrest)

theorem addsWords_postCommandMessage {tick : Nat} {message : AgentCommandMessage} {acceptance : MessageAcceptance}
    (h : postCommandMessage matchId playerId tick record message = .ok (next, acceptance)) :
    AddsWords playerId [message.utterance tick] record next := by
  unfold postCommandMessage at h
  split at h
  · cases h
  · unfold AgentCommandMessage.utterance
    dsimp only at h
    cases hchannel : message.channel with
    | group =>
        rw [hchannel] at h
        obtain ⟨posted, hposted, heq⟩ := Except.map_eq_ok h
        cases heq
        exact addsWords_recordGroupChatMessage hposted
    | world =>
        rw [hchannel] at h
        obtain ⟨posted, hposted, heq⟩ := Except.map_eq_ok h
        cases heq
        exact addsWords_recordMessage hposted
    | direct =>
        rw [hchannel] at h
        obtain ⟨posted, hposted, heq⟩ := Except.map_eq_ok h
        cases heq
        exact addsWords_recordMessage hposted

theorem addsWords_envelope {command : AgentCommandEnvelopeRequest} {response : AgentCommandEnvelopeResponse}
    (h : applyCommandEnvelope record matchId command playerId = .ok (next, response)) :
    AddsWords playerId (utterancesOf (.command command)) record next := by
  unfold applyCommandEnvelope at h
  split at h
  · cases h
  · unfold applyCommandEnvelopeMutations at h
    dsimp only at h
    split at h
    · cases h
    · rename_i posted messages hmessages
      split at h
      · cases h
      · rename_i negotiated treaties htreaties
        split at h
        · cases h
        · rename_i allied alliance halliance
          cases h
          have hordered : AddsWords playerId (if commandHasOrders command then [.orders command.tick command.orders] else [])
              record (recordCommandOrders record matchId command playerId).1 := by
            unfold recordCommandOrders
            split
            · exact addsWords_submission record matchId playerId command.tick command.orders
            · exact .refl record
          have hposted : AddsWords playerId (command.messages.flatMap fun message => [message.utterance command.tick])
              (recordCommandOrders record matchId command playerId).1 posted :=
            addsWords_applyEach (fun _ _ _ _ hpost => addsWords_postCommandMessage hpost) hmessages
          have hnegotiated : AddsWords playerId (command.treaties.flatMap fun _ => []) posted negotiated :=
            addsWords_applyEach (fun _ _ _ _ htreaty => addsWords_treaty (applyCommandTreaty_eq_ok htreaty).2) htreaties
          have hallied : AddsWords playerId [] negotiated next := by
            unfold applyCommandAlliance at halliance
            split at halliance
            · cases halliance
              exact .refl _
            · obtain ⟨applied, happlied, heq⟩ := Except.map_eq_ok halliance
              cases heq
              exact addsWords_alliance happlied
          have hall := (hordered.trans hposted).trans (hnegotiated.trans hallied)
          have htreated : (command.treaties.flatMap fun _ => ([] : List Utterance)) = [] :=
            List.flatMap_eq_nil_iff.2 fun _ _ => rfl
          rw [htreated, List.append_nil, List.append_nil, ← List.map_eq_flatMap] at hall
          exact hall

/-- An accepted write brings in the caller's own words. -/
theorem addsWords_write {request : MatchWrite} {accepted : CommandAcceptance}
    (h : applyMatchWrite record matchId playerId request = .ok (next, accepted)) :
    AddsWords playerId (utterancesOf request) record next := by
  cases request with
  | orders tick orders =>
      obtain ⟨submitted, hsubmitted, heq⟩ := Except.map_eq_ok h
      cases heq
      unfold submitOrders at hsubmitted
      split at hsubmitted
      · cases hsubmitted
      · cases hsubmitted
        exact addsWords_submission record record.matchId playerId tick orders
  | command command =>
      obtain ⟨applied, happlied, heq⟩ := Except.map_eq_ok (applyMatchWrite_eq_ok h)
      cases heq
      exact addsWords_envelope happlied
  | message message =>
      obtain ⟨posted, hposted, heq⟩ := Except.map_eq_ok (applyMatchWrite_eq_ok h)
      cases heq
      exact addsWords_recordMessage hposted
  | groupChat groupChat =>
      cases applyMatchWrite_eq_ok h
      exact addsWords_createGroupChat record groupChat playerId
  | groupChatMessage groupChatId message =>
      obtain ⟨posted, hposted, heq⟩ := Except.map_eq_ok (applyMatchWrite_eq_ok h)
      cases heq
      exact addsWords_recordGroupChatMessage hposted
  | treaty action =>
      obtain ⟨applied, happlied, heq⟩ := Except.map_eq_ok (applyMatchWrite_eq_ok h)
      cases heq
      exact addsWords_treaty happlied
  | alliance action =>
      obtain ⟨applied, happlied, heq⟩ := Except.map_eq_ok (applyMatchWrite_eq_ok h)
      cases heq
      exact addsWords_alliance happlied

/-- An override puts the owner's orders in the place of the player's. -/
theorem addsWords_override (record : MatchRecord) (playerId : String) (tick : Nat) (orders : OrderBatch) :
    AddsWords playerId [.orders tick orders] record
      (replacePlayerSubmissions record playerId tick ⟨record.matchId, playerId, tick, orders⟩).1 := by
  intro word hword
  simp only [replacePlayerSubmissions, withSubmissions, MatchRecord.words, List.map_append, List.map_cons, List.map_nil,
    List.mem_append, List.mem_singleton] at hword
  rcases hword with ((hbefore | rfl) | hbefore) | hbefore
  · have hkept : word ∈ record.orderSubmissions.map OrderEnvelope.word :=
      List.map_subset _ (List.filter_subset_self _) hbefore
    exact Or.inr (Or.inl (List.mem_append_left _ (List.mem_append_left _ hkept)))
  · exact Or.inr (Or.inr ⟨rfl, List.mem_singleton_self _⟩)
  · exact Or.inr (Or.inl (List.mem_append_left _ (List.mem_append_right _ hbefore)))
  · exact Or.inr (Or.inl (List.mem_append_right _ hbefore))

/-- A tick uses orders up and announces broken treaties. -/
theorem addsWords_advanceMatchTick (record : MatchRecord) (playerId : String) :
    AddsWords playerId [] record (advanceMatchTick record).1 := by
  have hdrained : (drainQueue record).words ⊆ record.words := by
    intro word hword
    rcases List.mem_append.1 hword with hqueued | hchat
    · rcases List.mem_append.1 hqueued with hqueued | hmessage
      · exact List.mem_append_left _ (List.mem_append_left _ (List.map_subset _ (List.filter_subset_self _) hqueued))
      · exact List.mem_append_left _ (List.mem_append_right _ hmessage)
    · exact List.mem_append_right _ hchat
  have hbroken : ∀ orders, AddsWords playerId [] record
      (reconcileHostileTreatyBreaks (drainQueue record) record.state orders) := by
    intro orders
    refine Run.invariant_foldl (I := AddsWords playerId [] record) ?_ (.of_subset hdrained) _
    intro reached attack hreached
    unfold breakActiveTreatiesBetweenPlayers
    refine Run.invariant_foldl (I := AddsWords playerId [] record) ?_ ?_ _
    swap
    · exact hreached
    intro announced treaty hannounced
    exact hannounced.trans (addsWords_message (Or.inl rfl))
  unfold advanceMatchTick
  dsimp only
  split
  · exact hbroken _
  · exact hbroken _

end Requests

/-! ### Steps of the server -/

/-- Who says what in a live match. -/
def Server.wordsOf (server : Server) (matchId : String) : List (String × Utterance) :=
  (server.registry.getMatch matchId).elim [] MatchRecord.words

/-- A request that says something in a match for an actor: a write of the actor's own, or an override of an owner of the actor's key. -/
inductive Voices (hashApiKey : String → String) (guided : GuidedServer) (matchId : String) (actor : LobbyActor)
    (utterance : Utterance) : ApiEvent → Prop
  | write {credentials : Credentials} {request : MatchWrite} (hactor : credentials.actor hashApiKey = some actor)
      (hsaid : utterance ∈ utterancesOf request) :
      Voices hashApiKey guided matchId actor utterance (.write credentials matchId matchId request)
  | override {request : OwnerRequest} {orders : OrderBatch} {apiKey : ApiKeyRow}
      (hkey : apiKey ∈ guided.database.apiKeys.rows) (howner : request.humanUserId = some apiKey.userId)
      (hactor : actor = .agent apiKey.keyHash) (hmatch : request.matchId = matchId)
      (hsaid : utterance = .orders request.tick orders) :
      Voices hashApiKey guided matchId actor utterance (.override request orders)

section Steps

variable {hashApiKey : String → String} {variant : StorageVariant} {server : Server} {guided : GuidedServer}
  {matchId : String}

theorem mem_wordsOf {word : String × Utterance} :
    word ∈ server.wordsOf matchId ↔ ∃ record, server.registry.getMatch matchId = some record ∧ word ∈ record.words := by
  unfold Server.wordsOf
  cases server.registry.getMatch matchId with
  | none => exact iff_of_false List.not_mem_nil nofun
  | some record =>
      constructor
      · exact fun h => ⟨record, rfl, h⟩
      · intro h
        obtain ⟨found, hfound, hword⟩ := h
        cases hfound
        exact hword

/-- Storing a record brings in what it adds to the one it replaces. -/
theorem mem_words_stored {id playerId : String} {said : List Utterance} {record record' found : MatchRecord}
    {word : String × Utterance} (hrecord : server.registry.getMatch id = some record)
    (hadds : AddsWords playerId said record record')
    (hfound : (server.registry.storeMatch id record').getMatch matchId = some found) (hword : word ∈ found.words) :
    word.1 = announcer ∨ word ∈ server.wordsOf matchId ∨ (matchId = id ∧ word.1 = playerId ∧ word.2 ∈ said) := by
  have hstored : (server.registry.storeMatch id record').getMatch matchId =
      if matchId = id then some record' else server.registry.getMatch matchId := OrdDict.get?_insert _ _ _ _
  rw [hfound] at hstored
  split at hstored
  · rename_i hmatch
    cases hstored
    rcases hadds word hword with hannounced | hbefore | hsaid
    · exact Or.inl hannounced
    · exact Or.inr (Or.inl (mem_wordsOf.2 ⟨record, hmatch ▸ hrecord, hbefore⟩))
    · exact Or.inr (Or.inr ⟨hmatch, hsaid⟩)
  · exact Or.inr (Or.inl (mem_wordsOf.2 ⟨found, hstored.symm, hword⟩))

/-- A record that comes from the rows holds no words. -/
theorem mem_words_commit {database : Database} {record found : MatchRecord} {word : String × Utterance}
    (hsilent : record.words = []) (hfound : (server.commit database record).registry.getMatch matchId = some found)
    (hword : word ∈ found.words) : word ∈ server.wordsOf matchId := by
  change (server.registry.seedMatch record).getMatch matchId = some found at hfound
  rw [InMemoryMatchRegistry.getMatch_seedMatch] at hfound
  split at hfound
  · cases hfound
    have hnone : word ∈ record.words := hword
    rw [hsilent] at hnone
    exact absurd hnone List.not_mem_nil
  · exact mem_wordsOf.2 ⟨found, hfound, hword⟩

/-- Apart from commands, the server itself only announces. -/
theorem mem_words_hostStep {event : ServerEvent} (hhost : event.isCommand = false) {word : String × Utterance}
    (hspoken : word ∈ (serverStep hashApiKey variant server event).wordsOf matchId) :
    word.1 = announcer ∨ word ∈ server.wordsOf matchId := by
  have heffect : ServerEffect hashApiKey variant server event (serverStep hashApiKey variant server event) :=
    serverStep_effect server event
  obtain ⟨found, hfound, hword⟩ := mem_wordsOf.1 hspoken
  generalize serverStep hashApiKey variant server event = next at heffect hfound
  have hround : ∀ {id : String} {record record' : MatchRecord}, server.registry.getMatch id = some record →
      AddsWords announcer [] record record' → (server.registry.storeMatch id record').getMatch matchId = some found →
        word.1 = announcer ∨ word ∈ server.wordsOf matchId := by
    intro id record record' hrecord hadds hstored
    rcases mem_words_stored hrecord hadds hstored hword with hannounced | hbefore | ⟨-, hannounced, -⟩
    · exact Or.inl hannounced
    · exact Or.inr hbefore
    · exact Or.inl hannounced
  cases heffect with
  | refused => exact Or.inr (mem_wordsOf.2 ⟨found, hfound, hword⟩)
  | keyCreated hfresh hadd => exact Or.inr (mem_wordsOf.2 ⟨found, hfound, hword⟩)
  | keyRevoked hrevoked => exact Or.inr (mem_wordsOf.2 ⟨found, hfound, hword⟩)
  | lobbyCreated hcreate =>
      obtain ⟨state, creator, agent, matchRows, -, -, -, -, hrecord⟩ := createMatchLobby_eq_ok hcreate
      exact Or.inr (mem_words_commit (by rw [hrecord]; rfl) hfound hword)
  | joined hjoin =>
      obtain ⟨row, -, -, hrecord⟩ := joinDbMatch_eq_ok hjoin
      exact Or.inr (mem_words_commit (by rw [hrecord]; rfl) hfound hword)
  | started hstart =>
      obtain ⟨row, -, -, -, -, hrecord⟩ := startMatchLobby_eq_ok hstart
      exact Or.inr (mem_words_commit (by rw [hrecord]; rfl) hfound hword)
  | commanded hrecord hcommand => cases hhost
  | tickIdle hrecord => exact hround hrecord (.refl _) hfound
  | tickRaised hrecord hactive htick => exact hround hrecord (addsWords_advanceMatchTick _ _) hfound
  | @ticked _ _ _ record advancedTick _ hrecord hactive htick hpersist =>
      have hadds : AddsWords announcer [] record (completeRecord advancedTick (advanceRegistryTick record).1) := by
        have hticked : AddsWords announcer [] record (advanceRegistryTick record).1 := addsWords_advanceMatchTick record announcer
        unfold completeRecord
        split
        · exact hticked
        · exact hticked
      exact hround hrecord hadds hfound
  | hydrated hload =>
      rw [getMatch_loadMatchRegistryFromDatabase hload] at hfound
      obtain ⟨row, -, rfl⟩ := Option.map_eq_some_iff.1 hfound
      exact absurd hword List.not_mem_nil

theorem actor_of_resolveMatchPlayerId {credentials : Credentials} {playerId : String}
    (h : server.resolveMatchPlayerId hashApiKey variant matchId credentials = .ok playerId) :
    ∃ actor, credentials.actor hashApiKey = some actor := by
  unfold Server.resolveMatchPlayerId at h
  unfold Credentials.actor
  cases hkey : credentials.apiKey with
  | some apiKey => exact ⟨_, rfl⟩
  | none =>
      cases huser : credentials.humanUserId with
      | none =>
          simp only [hkey, huser] at h
          cases h
      | some userId => exact ⟨_, rfl⟩

/-- What comes into a live match is announced, or said by a request for whoever has the seat. -/
theorem mem_words_apiStep (hknows : guided.KnowsCallers hashApiKey) {event : ApiEvent} {word : String × Utterance}
    (hword : word ∈ (apiStep hashApiKey variant guided event).wordsOf matchId) :
    word.1 = announcer ∨ word ∈ guided.wordsOf matchId ∨ ∃ actor occupant,
      Voices hashApiKey guided matchId actor word.2 event ∧ Speaks hashApiKey guided.database occupant actor ∧
        Sits hashApiKey guided.database matchId occupant word.1 := by
  have heffect : ApiEffect hashApiKey variant guided event (apiStep hashApiKey variant guided event) :=
    apiStep_effect guided event
  generalize apiStep hashApiKey variant guided event = next at heffect hword
  cases heffect with
  | refused => exact Or.inr (Or.inl hword)
  | host event =>
      rcases mem_words_hostStep event.2 hword with hannounced | hbefore
      · exact Or.inl hannounced
      · exact Or.inr (Or.inl hbefore)
  | @written credentials id playerId request record applied accepted hrecord hplayer hwrite =>
      obtain ⟨found, hfound, hword⟩ := mem_wordsOf.1 hword
      rcases mem_words_stored hrecord (addsWords_write hwrite) hfound hword with hannounced | hbefore | ⟨rfl, rfl, hsaid⟩
      · exact Or.inl hannounced
      · exact Or.inr (Or.inl hbefore)
      · obtain ⟨actor, hactor⟩ := actor_of_resolveMatchPlayerId hplayer
        obtain ⟨occupant, hspeaks, hsits⟩ := (PlaysAs.request hactor hplayer).sits hknows
        exact Or.inr (Or.inr ⟨actor, occupant, .write hactor hsaid, hspeaks, hsits⟩)
  | advised => exact Or.inr (Or.inl hword)
  | @overridden request orders record seat supersededCount overrides hrecord htick hseat hadd =>
      obtain ⟨found, hfound, hword⟩ := mem_wordsOf.1 hword
      rcases mem_words_stored hrecord (addsWords_override record seat.playerId request.tick orders) hfound hword with
        hannounced | hbefore | ⟨rfl, hplayer, hsaid⟩
      · exact Or.inl hannounced
      · exact Or.inr (Or.inl hbefore)
      · obtain ⟨huser, howned, hjoined, -⟩ := requireOwnedAgentMatchPlayer_eq_ok hseat
        obtain ⟨hcontext, apiKey, hkey, howner, hagent⟩ := resolveOwnedAgentContext_eq_some howned
        have hsits := hknows.sits_agent hjoined
        refine Or.inr (Or.inr ⟨.agent apiKey.keyHash, .agent seat.ownedAgent.agentId,
          .override hkey (huser.trans (congrArg some howner.symm)) rfl rfl (List.mem_singleton.1 hsaid),
          ⟨apiKey, hkey, rfl, congrArg _ (hcontext.trans hagent.symm)⟩, ?_⟩)
        rw [hplayer]
        exact hsits

end Steps

/-! ### Runs -/

section Runs

variable {hashApiKey : String → String} {variant : StorageVariant} {guided : GuidedServer} {matchId : String}

theorem Sits.ne_announcer {db : Database} {occupant : Occupant} {playerId : String}
    (h : Sits hashApiKey db matchId occupant playerId) : playerId ≠ announcer := by
  obtain ⟨seat, -, -, i, -, rfl⟩ := h
  intro hannounced
  have hfirst : (canonicalPlayerId i).toList[0]? = some 'p' := by
    simp [canonicalPlayerId, numberedName, toString]
  rw [hannounced] at hfirst
  exact absurd hfirst (by decide)

/-- From a server without matches, whatever is asked of it: what a live match holds in the name of a player came in a request of the very caller that plays as the player, or as an override of an owner of the caller's key. -/
theorem said_by_their_caller (hempty : guided.HoldsNoMatch) (hnone : guided.registry = .empty) (events : List ApiEvent)
    {matchId playerId : String} {actor : LobbyActor} {utterance : Utterance}
    (hplays : PlaysAs hashApiKey variant (events.foldl (apiStep hashApiKey variant) guided).toServer matchId actor playerId)
    (hsaid : (playerId, utterance) ∈ (events.foldl (apiStep hashApiKey variant) guided).wordsOf matchId) :
    ∃ taken ∈ Run.steps (apiStep hashApiKey variant) guided events,
      Voices hashApiKey taken.1 matchId actor utterance taken.2 := by
  have hknows : ∀ before : List ApiEvent, (before.foldl (apiStep hashApiKey variant) guided).KnowsCallers hashApiKey :=
    fun before => knowsCallers_run (hempty.knowsCallers hnone) before _ (Run.foldl_mem_states _ _)
  obtain ⟨occupant, hspeaks, hsits⟩ := hplays.sits (hknows events)
  have horigin := Run.origin_foldl
    (I := fun reached : GuidedServer => (playerId, utterance) ∈ reached.wordsOf matchId)
    (C := fun reached event => reached.KnowsCallers hashApiKey → ∃ actor occupant,
      Voices hashApiKey reached matchId actor utterance event ∧ Speaks hashApiKey reached.database occupant actor ∧
        Sits hashApiKey reached.database matchId occupant playerId) ?_ hsaid
  · rcases horigin with halways | ⟨before, event, after, rfl, hbrought, -⟩
    · have hstart : (playerId, utterance) ∈ guided.wordsOf matchId := halways guided (Run.mem_states_self _ _)
      obtain ⟨record, hrecord, -⟩ := mem_wordsOf.1 hstart
      rw [hnone] at hrecord
      cases hrecord
    · have hlast : (before ++ event :: after).foldl (apiStep hashApiKey variant) guided ∈
          Run.states (apiStep hashApiKey variant) (before.foldl (apiStep hashApiKey variant) guided) (event :: after) := by
        rw [List.foldl_append]
        exact Run.foldl_mem_states _ _
      have hgrown := seatsGrow_run (hknows before) (event :: after) _ hlast
      obtain ⟨actor', occupant', hvoices, hspeaks', hsits'⟩ := hbrought (hknows before)
      have hoccupant : occupant' = occupant :=
        (Sits.eq_iff (hknows _).seats (hsits'.of_subset (hgrown.seats matchId)) hsits).2 rfl
      have hactor : actor' = actor := ((hspeaks'.kept hgrown.keys).eq_iff hspeaks).2 hoccupant
      exact ⟨(before.foldl (apiStep hashApiKey variant) guided, event),
        Run.mem_steps.2 ⟨before, after, rfl, rfl⟩, hactor ▸ hvoices⟩
  · intro reached event hword
    by_cases hreached : reached.KnowsCallers hashApiKey
    · rcases mem_words_apiStep hreached hword with hannounced | hbefore | hbrought
      · exact absurd hannounced hsits.ne_announcer
      · exact Or.inl hbefore
      · exact Or.inr fun _ => hbrought
    · exact Or.inr fun hknown => absurd hknown hreached

end Runs

/-! ### A greeting -/

def greeting : List ApiEvent :=
  agentLobby ++ guestEnters ++
    [.write ⟨some (rawApiKey deploymentToken), none⟩ deploymentMatchId deploymentMatchId (.message ⟨0, .world, none, "Hello."⟩)]

theorem said_by_their_caller_greeting :
    ∃ taken ∈ Run.steps (apiStep deploymentHash .sqlite) guidedDeployment greeting,
      Voices deploymentHash taken.1 deploymentMatchId (.agent (deploymentHash (rawApiKey deploymentToken)))
        (.message .world none 0 "Hello.") taken.2 := by
  have hplayer : (greeting.foldl (apiStep deploymentHash .sqlite) guidedDeployment).resolveMatchPlayerId deploymentHash .sqlite
      deploymentMatchId ⟨some (rawApiKey deploymentToken), none⟩ = .ok (canonicalPlayerId 1) := by decide +kernel
  have hsaid : (canonicalPlayerId 1, Utterance.message .world none 0 "Hello.") ∈
      (greeting.foldl (apiStep deploymentHash .sqlite) guidedDeployment).wordsOf deploymentMatchId := by decide +kernel
  exact said_by_their_caller deployment_holdsNoMatch rfl greeting (.request rfl hplayer) hsaid

end IronCouncil
