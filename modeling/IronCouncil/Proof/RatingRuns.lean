import IronCouncil.Proof.RatingChain

/-!
# Ratings in runs

A row keeps the rating its competitor had when they joined. A run whose matches complete while that is still the rating has a chain of settlements for every competitor, and no other run does.
-/

namespace IronCouncil

/-! ### Steps that settle nothing -/

section Leaving

variable {hashApiKey : String → String} {variant : StorageVariant} {server : Server}
  {P : String → MatchState → Prop} {Q : MatchRecord → Prop}

/-- A new row gets the rating its competitor has. -/
theorem Resolved.rating {db : Database} {identity : PlayerIdentity} (h : Resolved hashApiKey db identity)
    {matchId displayName : String} {joinIndex : Nat} {competitor : Competitor}
    (hof : (joinedPlayerRow matchId joinIndex { identity with displayName }).isOf competitor) :
    identity.eloRating = db.ratingOf competitor := by
  cases h with
  | agent keyHash agent hresolve =>
      obtain ⟨apiKey, hrow, -, -, hid, -, helo⟩ := resolveAuthenticatedAgentFromDbKeyHash_eq_some hashApiKey hresolve
      cases competitor with
      | key apiKeyId =>
          have hsame : agent.apiKeyId = apiKeyId := by
            simpa [PlayerRow.isOf, Competitor.names, joinedPlayerRow, agentIdentity] using hof
          have hfound : db.apiKeys.get? apiKeyId = some apiKey := Table.get?_eq_some.2 ⟨hrow, hid.symm.trans hsame⟩
          simp only [Database.ratingOf, hfound, Option.map_some, Option.getD_some]
          exact helo
      | human userId => cases hof
  | human userId =>
      cases competitor with
      | key apiKeyId => cases hof
      | human userId' =>
          have hsame : userId = userId' := of_decide_eq_true hof
          rw [← hsame]
          rfl

theorem leavesRatings_of_tables {next : Server} (hsettlements : next.database.playerMatchSettlements =
      server.database.playerMatchSettlements)
    (hsettled : next.database.matchSettlements = server.database.matchSettlements)
    (hkeys : next.database.apiKeys = server.database.apiKeys) (hplayers : next.database.players = server.database.players)
    (hclock : server.clock ≤ next.clock) : LeavesRatings server next where
  settlements := hsettlements
  settled := hsettled
  clock := hclock
  keys := fun apiKey hrow => Or.inl ⟨apiKey, hkeys ▸ hrow, rfl, rfl⟩
  players := fun player hplayer => Or.inl ⟨player, hplayers ▸ hplayer, rfl⟩

/-- A new row leaves the ratings as they are. -/
theorem leavesRatings_addPlayer {db database : Database} {player : PlayerRow} {record : MatchRecord}
    (hadd : addPlayer db player = .ok database)
    (hsettlements : db.playerMatchSettlements = server.database.playerMatchSettlements)
    (hsettled : db.matchSettlements = server.database.matchSettlements)
    (hkeys : db.apiKeys = server.database.apiKeys) (hplayers : db.players = server.database.players)
    (henters : Enters server.database player) : LeavesRatings server (server.commit database record) := by
  obtain ⟨players, hsession, rfl⟩ := addPlayer_eq_ok hadd
  refine ⟨hsettlements, hsettled, le_rfl, fun apiKey hrow => Or.inl ⟨apiKey, ?_, rfl, rfl⟩, ?_⟩
  · rw [← hkeys]
    exact hrow
  · intro player' hplayer'
    have hplayer' : player' ∈ players.rows := hplayer'
    rw [(sessionAdd_eq_ok hsession).2, hplayers] at hplayer'
    rcases List.mem_append.1 hplayer' with hold | hnew
    · exact Or.inl ⟨player', hold, rfl⟩
    · rw [List.mem_singleton.1 hnew]
      exact Or.inr henters

theorem leavesRatings_lobbyCreated (hholds : server.Holds P Q) {actor : LobbyActor} {request : MatchLobbyCreateRequest}
    {matchId : String} {database : Database} {created : CreatedMatchLobby}
    (hcreate : createMatchLobby hashApiKey server.database actor request matchId = .ok (database, created)) :
    LeavesRatings server (server.commit database created.record) := by
  obtain ⟨state, creator, agent, matchRows, -, hcreator, hmatch, hadd, -⟩ := createMatchLobby_eq_ok hcreate
  have hresolved := (resolveLobbyCreator_eq_ok hcreator).1
  refine leavesRatings_addPlayer hadd rfl rfl rfl rfl ⟨?_, fun competitor hof => hresolved.rating hof⟩
  intro hmem
  obtain ⟨settlement, hsettlement, hid⟩ := List.mem_map.1 hmem
  obtain ⟨found, hfound, -⟩ := hholds.settlements settlement hsettlement
  have hstored := Table.mem_keys_of_get? hfound
  rw [hid] at hstored
  exact (sessionAdd_eq_ok hmatch).1 hstored

theorem leavesRatings_joined (hholds : server.Holds P Q) (hseats : server.SeatsAll hashApiKey) {actor : LobbyActor}
    {matchId : String} {database : Database} {joined : JoinedMatch}
    (hjoin : joinDbMatch hashApiKey variant server.database matchId actor = .ok (database, joined)) :
    LeavesRatings server (server.commit database joined.record) := by
  obtain ⟨row, hrow, hadded, -⟩ := joinDbMatch_eq_ok hjoin
  obtain rfl : row.id = matchId := Table.key_of_get? hrow
  obtain ⟨k, n, hk, hseated, hnumbered⟩ := hseats.matchSeats row.id row hrow
  obtain ⟨-, ⟨rfl, -⟩ | hanew⟩ := hseated.join_cases hnumbered hk hjoin
  · exact leavesRatings_of_tables rfl rfl rfl rfl le_rfl
  · rcases hadded with rfl | ⟨identity, joinIndex, hresolved, hadd⟩
    · exact leavesRatings_of_tables rfl rfl rfl rfl le_rfl
    · refine leavesRatings_addPlayer hadd rfl rfl rfl rfl ⟨?_, fun competitor hof => hresolved.rating hof⟩
      refine hholds.unsettled (not_hasCompleted_of_row hrow ?_)
      rcases hanew.admits.opened with hlobby | hpaused
      · rw [hlobby]
        decide
      · rw [hpaused]
        decide

end Leaving

/-! ### What a step does to the ratings -/

section Steps

variable {hashApiKey : String → String} {variant : StorageVariant} {server : Server}
  {P : String → MatchState → Prop} {Q : MatchRecord → Prop}

/-- A step settles a match, and changes no row but for its alliance. -/
structure SettlesMatch (server next : Server) (matchId : String) (elapsed : Nat) : Prop where
  settles : ∃ outcome players, Settles server.database next.database matchId (server.readClock elapsed) outcome players
  enrolments : next.database.players.rows.map PlayerRow.enrolment = server.database.players.rows.map PlayerRow.enrolment
  clock : next.clock = server.readClock elapsed

/-- A persisted terminal tick settles its match. -/
theorem settles_of_persistsVictory (hholds : server.Holds P Q) {matchId : String} {newId : Nat → String} {elapsed : Nat}
    (h : PersistsVictory variant server (.tick matchId newId elapsed)) :
    SettlesMatch server (serverStep hashApiKey variant server (.tick matchId newId elapsed)) matchId elapsed := by
  obtain ⟨record, advancedTick, database, hrecord, hactive, htick, hterminal, hpersist⟩ := h
  obtain ⟨hid, -, row, hrow, -⟩ := hholds.live matchId record hrecord
  obtain ⟨stored, hpersisted⟩ := persistAdvancedMatchTick_persisted hpersist
  have hfound : server.database.matchRows.get? advancedTick.matchId = some row := by
    rw [(advanceRegistryTick_eq_ok htick).1, hid, hrow]
  have hstep : serverStep hashApiKey variant server (.tick matchId newId elapsed) =
      server.afterRound matchId elapsed (completeRecord advancedTick (advanceRegistryTick record).1) database :=
    congrArg Prod.fst (tick_of_persists hrecord hactive htick hpersist)
  rw [hstep]
  refine ⟨?_, hpersisted.enrolments_kept, rfl⟩
  obtain rfl : row.id = matchId := Table.key_of_get? hrow
  rcases persist_settles hpersist hfound with ⟨-, -, -, hsettled⟩ | ⟨-, hsettles⟩
  · exact absurd (hsettled hterminal) (hholds.unsettled (hholds.incomplete hrecord hactive))
  · exact hsettles

/-- Every other step leaves the ratings as they are. -/
theorem leavesRatings_serverStep (hholds : server.Holds P Q) (hseats : server.SeatsAll hashApiKey) {event : ServerEvent}
    (hnot : ¬ PersistsVictory variant server event) :
    LeavesRatings server (serverStep hashApiKey variant server event) := by
  have heffect : ServerEffect hashApiKey variant server event (serverStep hashApiKey variant server event) :=
    serverStep_effect server event
  generalize serverStep hashApiKey variant server event = next at heffect
  have hlater : ∀ elapsed, server.clock ≤ server.readClock elapsed := by
    intro elapsed
    unfold Server.readClock
    omega
  cases heffect with
  | refused => exact leavesRatings_of_tables rfl rfl rfl rfl le_rfl
  | keyCreated hfresh hadd =>
      obtain ⟨hid, hrows, hdb⟩ := Database.addApiKey_eq_ok hadd
      have hsettlements := congrArg Database.playerMatchSettlements hdb
      have hsettled := congrArg Database.matchSettlements hdb
      refine ⟨hsettlements, hsettled, le_rfl, ?_, ?_⟩
      · intro apiKey hmem
        have hmem : apiKey ∈ _ := hrows ▸ hmem
        rcases List.mem_append.1 hmem with hold | hnew
        · exact Or.inl ⟨apiKey, hold, rfl, rfl⟩
        · rw [List.mem_singleton.1 hnew]
          exact Or.inr hid
      · intro player hplayer
        have hplayers := congrArg Database.players hdb
        exact Or.inl ⟨player, hplayers ▸ hplayer, rfl⟩
  | keyRevoked hfound =>
      refine ⟨rfl, rfl, le_rfl, ?_, fun player hplayer => Or.inl ⟨player, hplayer, rfl⟩⟩
      intro apiKey' hrow'
      obtain ⟨apiKey, hrow, rfl⟩ := List.mem_map.1 hrow'
      refine Or.inl ⟨apiKey, hrow, ?_, ?_⟩
      · split
        · rfl
        · rfl
      · split
        · rfl
        · rfl
  | lobbyCreated hcreate => exact leavesRatings_lobbyCreated hholds hcreate
  | joined hjoin => exact leavesRatings_joined hholds hseats hjoin
  | started hstart =>
      obtain ⟨row, -, -, -, rfl, -⟩ := startMatchLobby_eq_ok hstart
      exact leavesRatings_of_tables rfl rfl rfl rfl le_rfl
  | commanded hrecord hcommand => exact leavesRatings_of_tables rfl rfl rfl rfl le_rfl
  | tickIdle hrecord => exact leavesRatings_of_tables rfl rfl rfl rfl (hlater _)
  | tickRaised hrecord hactive htick => exact leavesRatings_of_tables rfl rfl rfl rfl (hlater _)
  | ticked hrecord hactive htick hpersist =>
      rename_i matchId newId elapsed record advancedTick database
      have hterminal : isTerminalVictoryTick advancedTick = false := by
        rw [Bool.eq_false_iff]
        exact fun hterminal => hnot ⟨_, _, _, hrecord, hactive, htick, hterminal, hpersist⟩
      obtain ⟨hid, -, row, hrow, hstatus⟩ := hholds.live matchId record hrecord
      obtain ⟨stored, hpersisted⟩ := persistAdvancedMatchTick_persisted hpersist
      have hfound : server.database.matchRows.get? advancedTick.matchId = some row := by
        rw [(advanceRegistryTick_eq_ok htick).1, hid, hrow]
      rcases persist_settles hpersist hfound with ⟨hsettlements, hkeys, hsettled, -⟩ | ⟨hcompleted, -⟩
      · refine ⟨hsettlements, hsettled, hlater elapsed, ?_, ?_⟩
        · intro apiKey hmem
          have hmem : apiKey ∈ database.apiKeys.rows := hmem
          exact Or.inl ⟨apiKey, hkeys ▸ hmem, rfl, rfl⟩
        · intro player' hplayer'
          obtain ⟨player, hplayer, hsame⟩ := exists_enrolled hpersisted.enrolments_kept.symm hplayer'
          exact Or.inl ⟨player, hplayer, hsame.symm⟩
      · rw [hterminal, if_neg Bool.false_ne_true, hstatus, hactive] at hcompleted
        cases hcompleted
  | hydrated hload => exact leavesRatings_of_tables rfl rfl rfl rfl le_rfl

theorem keysKept_serverStep (server : Server) (event : ServerEvent) :
    KeysKept server.database (serverStep hashApiKey variant server event).database := by
  have heffect : ServerEffect hashApiKey variant server event (serverStep hashApiKey variant server event) :=
    serverStep_effect server event
  generalize serverStep hashApiKey variant server event = next at heffect
  cases heffect with
  | keyCreated hfresh hadd =>
      intro apiKey hrow
      exact ⟨apiKey, (Database.addApiKey_eq_ok hadd).2.1 ▸ List.mem_append_left _ hrow, rfl, rfl⟩
  | keyRevoked hfound => exact keysKept_deactivateKey _ _
  | lobbyCreated hcreate =>
      obtain ⟨state, creator, agent, matchRows, -, -, -, hadd, -⟩ := createMatchLobby_eq_ok hcreate
      obtain ⟨players, -, rfl⟩ := addPlayer_eq_ok hadd
      exact KeysKept.of_eq rfl
  | joined hjoin =>
      obtain ⟨row, -, rfl | ⟨identity, joinIndex, -, hadd⟩, -⟩ := joinDbMatch_eq_ok hjoin
      · exact KeysKept.of_eq rfl
      · obtain ⟨players, -, rfl⟩ := addPlayer_eq_ok hadd
        exact KeysKept.of_eq rfl
  | started hstart =>
      obtain ⟨row, -, -, -, rfl, -⟩ := startMatchLobby_eq_ok hstart
      exact KeysKept.of_eq rfl
  | ticked hrecord hactive htick hpersist => exact keysKept_persist hpersist
  | _ => exact KeysKept.of_eq rfl

end Steps

/-! ### The rule -/

/-- The rows of the match have the ratings of their competitors. -/
def RatingsCurrent (db : Database) (matchId : String) : Prop :=
  ∀ player ∈ db.players.rows, player.matchId = matchId → ∀ competitor, player.isOf competitor →
    player.eloRating = db.ratingOf competitor

/-- If the step completes a match, its rows have the ratings of their competitors. -/
def CompletesCurrent (variant : StorageVariant) (server : Server) : ServerEvent → Prop
  | .tick matchId newId elapsed =>
      PersistsVictory variant server (.tick matchId newId elapsed) → RatingsCurrent server.database matchId
  | _ => True

/-- The step adds the row. -/
def AddsRow (hashApiKey : String → String) (variant : StorageVariant) (server : Server) (event : ServerEvent)
    (id : String) : Prop :=
  id ∉ server.database.players.keys ∧ id ∈ (serverStep hashApiKey variant server event).database.players.keys

/-- When a match completes each of its players has the rating they had when their row was added. -/
def RatingsHeld (hashApiKey : String → String) (variant : StorageVariant) (server : Server)
    (events : List ServerEvent) : Prop :=
  ∀ before matchId newId elapsed after, events = before ++ .tick matchId newId elapsed :: after →
    PersistsVictory variant (before.foldl (serverStep hashApiKey variant) server) (.tick matchId newId elapsed) →
    ∀ player ∈ (before.foldl (serverStep hashApiKey variant) server).database.players.rows, player.matchId = matchId →
      ∀ earlier entry between, before = earlier ++ entry :: between →
        AddsRow hashApiKey variant (earlier.foldl (serverStep hashApiKey variant) server) entry player.id →
        ∀ competitor, player.isOf competitor →
          (earlier.foldl (serverStep hashApiKey variant) server).database.ratingOf competitor =
            (before.foldl (serverStep hashApiKey variant) server).database.ratingOf competitor

section Runs

variable {hashApiKey : String → String} {variant : StorageVariant} {server : Server} {initial : Competitor → Int}

theorem Server.Rated.step {P : String → MatchState → Prop} {Q : MatchRecord → Prop} (h : server.Rated initial)
    (hinitial : ∀ userId, initial (.human userId) = 0) (hholds : server.Holds P Q) (hseats : server.SeatsAll hashApiKey)
    {event : ServerEvent}
    (hnew : ∀ apiKey' ∈ (serverStep hashApiKey variant server event).database.apiKeys.rows,
      apiKey'.id ∉ server.database.apiKeys.keys → apiKey'.eloRating = initial (.key apiKey'.id)) :
    (serverStep hashApiKey variant server event).Rated initial := by
  by_cases hpersists : PersistsVictory variant server event
  · cases event with
    | tick matchId newId elapsed =>
        have hsettled : SettlesMatch server (serverStep hashApiKey variant server (.tick matchId newId elapsed)) matchId
            elapsed := settles_of_persistsVictory hholds hpersists
        obtain ⟨outcome, players, hsettles⟩ := hsettled.settles
        exact hsettles.rated h hsettled.enrolments hsettled.clock
    | _ => exact hpersists.elim
  · exact h.left hinitial (leavesRatings_serverStep hholds hseats hpersists) hseats.keyed hnew
      (players_serverStep server event)

/-- A step keeps the chains exactly when the rows of the match it completes have the ratings of their competitors. -/
theorem follows_step {P : String → MatchState → Prop} {Q : MatchRecord → Prop} {event : ServerEvent}
    (hrated : server.Rated initial) (hnext : (serverStep hashApiKey variant server event).Rated initial)
    (hinitial : ∀ userId, initial (.human userId) = 0) (hholds : server.Holds P Q) (hseats : server.SeatsAll hashApiKey)
    (h : ∀ competitor, RatingsFollow (initial competitor) (server.database.history competitor)) :
    (∀ competitor, RatingsFollow (initial competitor)
      ((serverStep hashApiKey variant server event).database.history competitor)) ↔
      CompletesCurrent variant server event := by
  by_cases hpersists : PersistsVictory variant server event
  · cases event with
    | tick matchId newId elapsed =>
        have hsettled : SettlesMatch server (serverStep hashApiKey variant server (.tick matchId newId elapsed)) matchId
            elapsed := settles_of_persistsVictory hholds hpersists
        obtain ⟨outcome, players, hsettles⟩ := hsettled.settles
        rw [hsettles.follows_iff hseats hrated hnext hinitial]
        exact ⟨fun hboth _ => hboth.2, fun hcurrent => ⟨h, hcurrent hpersists⟩⟩
    | _ => exact hpersists.elim
  · have hkept : ∀ competitor, (serverStep hashApiKey variant server event).database.history competitor =
        server.database.history competitor := by
      intro competitor
      unfold Database.history
      rw [(leavesRatings_serverStep hholds hseats hpersists).settlements]
    have hcurrent : CompletesCurrent variant server event := by
      cases event with
      | tick matchId newId elapsed => exact fun hvictory => absurd hvictory hpersists
      | _ => trivial
    simp only [hkept]
    exact iff_of_true h hcurrent

variable (hnone : server.HoldsNoMatch)

include hnone

theorem seatsAll_run (events : List ServerEvent) :
    ∀ reached ∈ Run.states (serverStep hashApiKey variant) server events, reached.SeatsAll hashApiKey :=
  Run.invariant (fun _ event hseats => hseats.step event) hnone.seatsAll events

omit hnone in
/-- A new key starts from the rating it has when it is first there. -/
theorem initialRating_new {events : List ServerEvent} {step : Server × ServerEvent}
    (hstep : step ∈ Run.steps (serverStep hashApiKey variant) server events) {apiKey : ApiKeyRow}
    (hrow : apiKey ∈ (serverStep hashApiKey variant step.1 step.2).database.apiKeys.rows)
    (hnew : apiKey.id ∉ step.1.database.apiKeys.keys) :
    apiKey.eloRating = initialRating (Run.states (serverStep hashApiKey variant) server events) (.key apiKey.id) := by
  obtain ⟨before, after, rfl, hreached⟩ := Run.mem_steps.1 hstep
  have hearlier : (Run.states (serverStep hashApiKey variant) server before).findSome?
      (fun reached => reached.database.apiKeys.get? apiKey.id) = none := by
    rw [List.findSome?_eq_none_iff]
    intro reached hmem
    rw [Table.get?_eq_none]
    intro hkey
    have hkept : KeysKept reached.database (before.foldl (serverStep hashApiKey variant) server).database :=
      Run.rel_last (R := fun earlier later : Server => KeysKept earlier.database later.database)
        (fun _ => KeysKept.of_eq rfl) (fun _ _ _ h h' => h.trans h') keysKept_serverStep hmem
    obtain ⟨found, hfound, hid⟩ := List.mem_map.1 hkey
    obtain ⟨later, hlater, hsame, -⟩ := hkept found hfound
    rw [hreached] at hnew
    exact hnew (List.mem_map.2 ⟨later, hlater, hsame.trans hid⟩)
  have hfound : (serverStep hashApiKey variant step.1 step.2).database.apiKeys.get? apiKey.id = some apiKey :=
    Table.get?_eq_some.2 ⟨hrow, rfl⟩
  have hfirst : (Run.states (serverStep hashApiKey variant) (serverStep hashApiKey variant step.1 step.2) after).findSome?
      (fun reached => reached.database.apiKeys.get? apiKey.id) = some apiKey := by
    cases after with
    | nil => simp [Run.states, hfound]
    | cons event after => simp [Run.states, hfound]
  unfold initialRating
  dsimp only
  rw [Run.states_append_cons, List.findSome?_append, hearlier, ← hreached, hfirst]
  rfl

theorem rated_run (hnothing : server.database.playerMatchSettlements.rows = []) (events : List ServerEvent) :
    ∀ reached ∈ Run.states (serverStep hashApiKey variant) server events,
      reached.Rated (initialRating (Run.states (serverStep hashApiKey variant) server events)) := by
  refine Run.invariant_of_steps (C := fun reached event => reached.Holds (fun _ _ => True) (fun _ => True) ∧
    reached.SeatsAll hashApiKey ∧ ∀ apiKey ∈ (serverStep hashApiKey variant reached event).database.apiKeys.rows,
      apiKey.id ∉ reached.database.apiKeys.keys → apiKey.eloRating =
        initialRating (Run.states (serverStep hashApiKey variant) server events) (.key apiKey.id))
    (fun reached event hsound hrated => hrated.step (fun _ => rfl) hsound.1 hsound.2.1 hsound.2.2) ?_ ?_
  · have hnoRow : ∀ {row}, row ∉ server.database.playerMatchSettlements.rows := by
      intro row hrow
      rw [hnothing] at hrow
      cases hrow
    have hnoPlayer : ∀ {player}, player ∉ server.database.players.rows := by
      intro player hplayer
      rw [hnone.players] at hplayer
      cases hplayer
    refine ⟨?_, fun row hrow => absurd hrow hnoRow, fun row hrow => absurd hrow hnoRow,
      fun row hrow => absurd hrow hnoRow, ?_, fun player hplayer => absurd hplayer hnoPlayer,
      fun player hplayer => absurd hplayer hnoPlayer⟩
    · rw [hnothing]
      exact List.Pairwise.nil
    · intro apiKey hrow
      have hfound : server.database.apiKeys.get? apiKey.id = some apiKey := Table.get?_eq_some.2 ⟨hrow, rfl⟩
      rw [hnothing, List.filter_nil, endOf_nil]
      unfold initialRating
      dsimp only
      cases events with
      | nil => simp [Run.states, hfound]
      | cons event events => simp [Run.states, hfound]
  · intro step hstep
    exact ⟨hnone.holds_run events _ (Run.fst_mem_states hstep), seatsAll_run hnone events _ (Run.fst_mem_states hstep),
      fun apiKey hrow hnew => initialRating_new hstep hrow hnew⟩

/-! ### Rows -/

omit hnone in
/-- The step that adds a row gives it the rating of its competitor. -/
theorem rating_of_addsRow {P : String → MatchState → Prop} {Q : MatchRecord → Prop} (hholds : server.Holds P Q)
    (hseats : server.SeatsAll hashApiKey) {event : ServerEvent} {player : PlayerRow}
    (hadds : AddsRow hashApiKey variant server event player.id)
    (hplayer : player ∈ (serverStep hashApiKey variant server event).database.players.rows) {competitor : Competitor}
    (hof : player.isOf competitor) : player.eloRating = server.database.ratingOf competitor := by
  have hnot : ∀ old ∈ server.database.players.rows, player.enrolment ≠ old.enrolment := by
    intro old hold hsame
    exact hadds.1 (List.mem_map.2 ⟨old, hold, (id_of_enrolment hsame).symm⟩)
  by_cases hpersists : PersistsVictory variant server event
  · cases event with
    | tick matchId newId elapsed =>
        have hsettled : SettlesMatch server (serverStep hashApiKey variant server (.tick matchId newId elapsed)) matchId
            elapsed := settles_of_persistsVictory hholds hpersists
        obtain ⟨old, hold, hsame⟩ := exists_enrolled hsettled.enrolments.symm hplayer
        exact absurd hsame.symm (hnot old hold)
    | _ => exact hpersists.elim
  · rcases (leavesRatings_serverStep hholds hseats hpersists).players player hplayer with ⟨old, hold, hsame⟩ | henters
    · exact absurd hsame (hnot old hold)
    · exact henters.rating competitor hof

/-- A row keeps the rating its competitor had when it was added. -/
theorem rating_of_entry {earlier between : List ServerEvent} {entry : ServerEvent} {player : PlayerRow}
    (hplayer : player ∈
      ((earlier ++ entry :: between).foldl (serverStep hashApiKey variant) server).database.players.rows)
    (hadds : AddsRow hashApiKey variant (earlier.foldl (serverStep hashApiKey variant) server) entry player.id)
    {competitor : Competitor} (hof : player.isOf competitor) :
    player.eloRating = (earlier.foldl (serverStep hashApiKey variant) server).database.ratingOf competitor := by
  have hholds : (earlier.foldl (serverStep hashApiKey variant) server).Holds (fun _ _ => True) fun _ => True :=
    hnone.holds_run earlier _ (Run.foldl_mem_states _ _)
  have hseats : (earlier.foldl (serverStep hashApiKey variant) server).SeatsAll hashApiKey :=
    seatsAll_run hnone earlier _ (Run.foldl_mem_states _ _)
  obtain ⟨entered, hentered, hid⟩ := List.mem_map.1 hadds.2
  have hstays : ∃ later ∈
      ((earlier ++ entry :: between).foldl (serverStep hashApiKey variant) server).database.players.rows,
      later.enrolment = entered.enrolment := by
    rw [List.foldl_append, List.foldl_cons]
    refine Run.invariant_foldl (I := fun reached : Server =>
      ∃ later ∈ reached.database.players.rows, later.enrolment = entered.enrolment) ?_ ⟨entered, hentered, rfl⟩ between
    rintro reached event ⟨later, hlater, hsame⟩
    obtain ⟨next, hnext, hkept⟩ := players_serverStep reached event later hlater
    exact ⟨next, hnext, hkept.trans hsame⟩
  obtain ⟨later, hlater, hsame⟩ := hstays
  obtain rfl : later = player := Table.eq_of_key hlater hplayer ((id_of_enrolment hsame).trans hid)
  rw [eloRating_of_enrolment hsame]
  rw [isOf_of_enrolment hsame] at hof
  rw [← hid] at hadds
  exact rating_of_addsRow hholds hseats hadds hentered hof

theorem exists_entry {events : List ServerEvent} {id : String}
    (hid : id ∈ (events.foldl (serverStep hashApiKey variant) server).database.players.keys) :
    ∃ earlier entry between, events = earlier ++ entry :: between ∧
      AddsRow hashApiKey variant (earlier.foldl (serverStep hashApiKey variant) server) entry id := by
  rcases Run.origin_foldl (I := fun reached : Server => id ∈ reached.database.players.keys)
    (C := fun reached event => AddsRow hashApiKey variant reached event id)
    (fun reached event hlater => (Classical.em _).imp_right fun hnot => ⟨hnot, hlater⟩) hid
    with hsince | ⟨earlier, entry, between, hevents, hadds, -⟩
  · have hmem := hsince server (Run.mem_states_self server events)
    unfold Table.keys at hmem
    rw [hnone.players] at hmem
    cases hmem
  · exact ⟨earlier, entry, between, hevents, hadds⟩

theorem completesCurrent_iff_ratingsHeld (events : List ServerEvent) :
    (∀ step ∈ Run.steps (serverStep hashApiKey variant) server events, CompletesCurrent variant step.1 step.2) ↔
      RatingsHeld hashApiKey variant server events := by
  constructor
  · rintro h before matchId newId elapsed after rfl hpersists player hplayer hmatch earlier entry between rfl hadds
      competitor hof
    have hstep : (((earlier ++ entry :: between).foldl (serverStep hashApiKey variant) server,
        ServerEvent.tick matchId newId elapsed) : Server × ServerEvent) ∈ Run.steps (serverStep hashApiKey variant) server
          (earlier ++ entry :: between ++ .tick matchId newId elapsed :: after) :=
      Run.mem_steps.2 ⟨_, after, rfl, rfl⟩
    have hcurrent := h _ hstep hpersists player hplayer hmatch competitor hof
    rw [← rating_of_entry hnone hplayer hadds hof, hcurrent]
  · rintro h ⟨reached, event⟩ hstep
    obtain ⟨before, after, hevents, hreached⟩ := Run.mem_steps.1 hstep
    dsimp only at hevents hreached ⊢
    cases event with
    | tick matchId newId elapsed =>
        intro hpersists player hplayer hmatch competitor hof
        rw [hreached] at hpersists hplayer ⊢
        obtain ⟨earlier, entry, between, rfl, hadds⟩ := exists_entry hnone (List.mem_map_of_mem hplayer)
        rw [rating_of_entry hnone hplayer hadds hof]
        exact h _ matchId newId elapsed after hevents hpersists player hplayer hmatch earlier entry between rfl hadds
          competitor hof
    | _ => trivial

end Runs

/-! ### The chains -/

section Chains

variable {hashApiKey : String → String} {server : Server} {initial : Competitor → Int}

theorem exists_applied {rows : List PlayerMatchSettlementRow}
    (h : ∀ row ∈ rows, ∃ outcome player, row = playerSettlement outcome player) :
    ∃ deltas, List.Forall₂ (·.Applies ·) rows deltas := by
  induction rows with
  | nil => exact ⟨[], .nil⟩
  | cons row rows ih =>
      obtain ⟨⟨outcome, player, hrow⟩, hrest⟩ := List.forall_mem_cons.1 h
      obtain ⟨deltas, hdeltas⟩ := ih hrest
      exact ⟨_ :: deltas, .cons ⟨outcome, player, hrow, rfl⟩ hdeltas⟩

/-- Where the settlements follow one another, the ratings are the chains'. -/
theorem Server.Rated.ratingChain (h : server.Rated initial) (hinitial : ∀ userId, initial (.human userId) = 0)
    (hseats : server.SeatsAll hashApiKey)
    (hfollows : ∀ competitor, RatingsFollow (initial competitor) (server.database.history competitor)) :
    RatingChain initial server.database where
  follows := hfollows
  final := by
    intro competitor hknown
    have happlied : ∀ row ∈ server.database.history competitor, ∃ outcome player, row = playerSettlement outcome player := by
      rw [h.history_eq]
      exact fun row hrow => h.applied row (List.mem_of_mem_filter hrow)
    obtain ⟨deltas, hdeltas⟩ := exists_applied happlied
    refine ⟨deltas, hdeltas, ?_⟩
    rw [h.ratingOf_eq hinitial hknown, ← h.history_eq]
    exact endOf_eq_foldl _ _ (fun _ _ => PlayerMatchSettlementRow.Applies.eloAfter) (hfollows competitor) hdeltas
  once := by
    intro competitor
    rw [h.history_eq, List.Nodup, List.pairwise_map]
    have hordered := h.ordered.sublist (List.filter_sublist (p := (·.isOf competitor)))
    refine hordered.imp_of_mem ?_
    intro earlier row hearlier hrow hlt hmatch
    obtain ⟨hearlierRow, hearlierOf⟩ := List.mem_filter.1 hearlier
    obtain ⟨hrowRow, hrowOf⟩ := List.mem_filter.1 hrow
    obtain ⟨first, hfirst, hfirstId, hfirstMatch, hfirstOf⟩ := h.owned earlier hearlierRow
    obtain ⟨second, hsecond, hsecondId, hsecondMatch, hsecondOf⟩ := h.owned row hrowRow
    have hsame : first = second := hseats.single hfirst hsecond
      (hfirstMatch.symm.trans (hmatch.trans hsecondMatch)) (hfirstOf competitor ▸ hearlierOf)
      (hsecondOf competitor ▸ hrowOf)
    have hone : earlier = row := Table.eq_of_key hearlierRow hrowRow (hfirstId.trans (hsame ▸ hsecondId.symm))
    exact absurd hlt (hone ▸ lt_irrefl _)
  complete := by
    intro player hplayer hsettled competitor hof
    obtain ⟨row, hrow, hid⟩ := h.complete player hplayer hsettled
    obtain ⟨owner, howner, hownerId, hmatch, hsame⟩ := h.owned row hrow
    obtain rfl : owner = player := Table.eq_of_key howner hplayer (hownerId.symm.trans hid)
    refine ⟨row, ?_, hmatch⟩
    rw [h.history_eq]
    exact List.mem_filter.2 ⟨hrow, (hsame competitor).trans hof⟩

end Chains

/-- The settlements of a run are chains of ratings exactly when each match completes at the ratings its players joined it with. -/
theorem ratings_chain_iff {hashApiKey : String → String} {variant : StorageVariant} {server : Server}
    (hnone : server.HoldsNoMatch) (hnothing : server.database.playerMatchSettlements.rows = [])
    (events : List ServerEvent) :
    (∀ reached ∈ Run.states (serverStep hashApiKey variant) server events,
      RatingChain (initialRating (Run.states (serverStep hashApiKey variant) server events)) reached.database) ↔
      RatingsHeld hashApiKey variant server events := by
  have hrated : ∀ reached ∈ Run.states (serverStep hashApiKey variant) server events,
      reached.Rated (initialRating (Run.states (serverStep hashApiKey variant) server events)) :=
    rated_run hnone hnothing events
  have hfollows : (∀ reached ∈ Run.states (serverStep hashApiKey variant) server events, ∀ competitor,
      RatingsFollow (initialRating (Run.states (serverStep hashApiKey variant) server events) competitor)
        (reached.database.history competitor)) ↔ RatingsHeld hashApiKey variant server events := by
    rw [← completesCurrent_iff_ratingsHeld hnone]
    refine Run.forall_states_iff_of_steps ?_ ?_
    · intro step hstep hbefore
      have hmem := Run.fst_mem_states hstep
      refine follows_step (hrated _ hmem) (hrated _ ?_) (fun _ => rfl) (hnone.holds_run events _ hmem)
        (seatsAll_run hnone events _ hmem) hbefore
      obtain ⟨before, after, hevents, hreached⟩ := Run.mem_steps.1 hstep
      refine Run.mem_states.2 ⟨before ++ [step.2], after, by simp [hevents], ?_⟩
      rw [List.foldl_append, ← hreached]
      rfl
    · intro competitor
      have hempty : server.database.history competitor = [] := by
        unfold Database.history
        rw [hnothing]
        rfl
      rw [hempty]
      trivial
  rw [← hfollows]
  constructor
  · exact fun h reached hreached => (h reached hreached).follows
  · exact fun h reached hreached => (hrated reached hreached).ratingChain (fun _ => rfl)
      (seatsAll_run hnone events reached hreached) (h reached hreached)

/-! ### Two matches of one pair -/

def rematchId : String := "7e2a1d8f-69b3-4c8e-af4b-1a5d3c2b8f66"

def rematchIds (drawn : Nat) : String := s!"{drawn}ac4f7d2-5b08-4e61-9a3c-d7f1028b6e55"

def matchAndRematch : List ServerEvent :=
  deploymentReceives .sqlite
    (agentKeys ++ pairStarts deploymentMatchId ++ playsAllied deploymentMatchId deployedIds 3 ++
      pairStarts rematchId ++ playsAllied rematchId rematchIds 3)

/-- Both matches are joined before either is won. -/
def matchesAtOnce : List ServerEvent :=
  deploymentReceives .sqlite
    (agentKeys ++ pairStarts deploymentMatchId ++ pairStarts rematchId ++
      playsAllied deploymentMatchId deployedIds 3 ++ playsAllied rematchId rematchIds 3)

/-- Each tick is one of agents with the ratings of their keys. -/
def AgentsCurrent (server : Server) : ServerEvent → Bool
  | .tick matchId _ _ => server.database.players.rows.all fun player =>
      decide (player.matchId = matchId →
        player.isAgent = true ∧
          player.apiKeyId.all fun apiKeyId => player.eloRating = server.database.ratingOf (.key apiKeyId))
  | _ => true

theorem completesCurrent_of_agentsCurrent {variant : StorageVariant} {server : Server} {event : ServerEvent}
    (h : AgentsCurrent server event = true) : CompletesCurrent variant server event := by
  cases event with
  | tick matchId newId elapsed =>
      intro _ player hplayer hmatch competitor hof
      obtain ⟨hagent, hrating⟩ := of_decide_eq_true (List.all_eq_true.1 h player hplayer) hmatch
      cases competitor with
      | key apiKeyId =>
          have hkey : player.apiKeyId = some apiKeyId := by simpa [PlayerRow.isOf, Competitor.names, hagent] using hof
          simpa [hkey] using hrating
      | human userId => simp [PlayerRow.isOf, Competitor.names, hagent] at hof
  | _ => trivial

theorem ratings_chain_rematch :
    RatingsHeld deploymentHash .sqlite deployment matchAndRematch ∧
    ∀ reached ∈ Run.states (serverStep deploymentHash .sqlite) deployment matchAndRematch,
      RatingChain (initialRating (Run.states (serverStep deploymentHash .sqlite) deployment matchAndRematch))
        reached.database := by
  have hcurrent : (Run.steps (serverStep deploymentHash .sqlite) deployment matchAndRematch).all
      (fun step => AgentsCurrent step.1 step.2) = true := by decide +kernel
  have hheld : RatingsHeld deploymentHash .sqlite deployment matchAndRematch := by
    rw [← completesCurrent_iff_ratingsHeld deployment_holdsNoMatch]
    exact fun step hstep => completesCurrent_of_agentsCurrent (List.all_eq_true.1 hcurrent step hstep)
  exact ⟨hheld, (ratings_chain_iff deployment_holdsNoMatch rfl matchAndRematch).2 hheld⟩

theorem not_ratingChain_of_ratings {initial : Competitor → Int} {db : Database} {competitor : Competitor}
    {first first' second second' : Int} (h : (db.history competitor).map (fun row => (row.eloBefore, row.eloAfter)) =
      [(first, first'), (second, second')]) (hbreak : second ≠ first') : ¬ RatingChain initial db := by
  intro hchain
  have hfollows := hchain.follows competitor
  obtain ⟨settlement, rest, hrows, hfirst, hrest⟩ := List.map_eq_cons_iff.1 h
  obtain ⟨settlement', last, rfl, hsecond, -⟩ := List.map_eq_cons_iff.1 hrest
  rw [hrows] at hfollows
  have hlinked : settlement'.eloBefore = settlement.eloAfter := hfollows.2.1
  rw [(Prod.mk.inj hfirst).2, (Prod.mk.inj hsecond).1] at hlinked
  exact hbreak hlinked

/-- The second match is settled from the rating before the first. -/
theorem ratings_of_matchesAtOnce :
    ((matchesAtOnce.foldl (serverStep deploymentHash .sqlite) deployment).database.history
      (.key deploymentKeyId)).map (fun row => (row.eloBefore, row.eloAfter)) = [(0, 20), (0, 20)] := by
  decide +kernel

theorem ratings_break_at_once :
    ¬ ∀ reached ∈ Run.states (serverStep deploymentHash .sqlite) deployment matchesAtOnce,
      RatingChain (initialRating (Run.states (serverStep deploymentHash .sqlite) deployment matchesAtOnce))
        reached.database := by
  have hlast : matchesAtOnce.foldl (serverStep deploymentHash .sqlite) deployment ∈
      Run.states (serverStep deploymentHash .sqlite) deployment matchesAtOnce :=
    Run.foldl_mem_states deployment matchesAtOnce
  intro h
  have hchain := h (matchesAtOnce.foldl (serverStep deploymentHash .sqlite) deployment) hlast
  exact not_ratingChain_of_ratings ratings_of_matchesAtOnce (by decide) hchain

end IronCouncil
