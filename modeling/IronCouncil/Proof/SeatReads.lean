import IronCouncil.Api.MatchReads
import IronCouncil.Proof.PlayerCallers
import IronCouncil.Proof.SharedVision
import IronCouncil.Proof.ServerBoards
import IronCouncil.Proof.Validity

/-!
# Whoever has a seat is served

A projection needs valid armies only, and the armies of an open match are always valid. What is looked up in the rows needs a valid state, and a state is valid as long as no player is in debt. So an agent always sees its match, a human and an owner do as long as nobody is in debt there.
-/

namespace IronCouncil

/-! ### Valid parts -/

/-- Cities and armies are valid. Nothing is said of the players. -/
def PartsValid (state : MatchState) : Prop := CitiesValid state ∧ ArmiesValid state.armies

/-- No player is in debt. -/
def Solvent (state : MatchState) : Prop := ∀ player ∈ state.players.values, player.resources.FieldsValid

theorem PartsValid.fieldsValid_iff {state : MatchState} (h : PartsValid state) : state.FieldsValid ↔ Solvent state :=
  ⟨fun hvalid => hvalid.2.2, fun hsolvent => ⟨h.1, h.2, hsolvent⟩⟩

theorem PartsValid.congr {state state' : MatchState} (h : PartsValid state) (hcities : state'.cities = state.cities)
    (harmies : state'.armies = state.armies) : PartsValid state' :=
  ⟨citiesValid_of_cities h.1 hcities, harmies ▸ h.2⟩

theorem partsValid_lobby {request : MatchLobbyCreateRequest} {state : MatchState}
    (h : initializeMatchState (lobbyConfig request) (lobbyRoster request) none = .ok state) : PartsValid state := by
  have hdefault : initializeMatchState (lobbyConfig request) (lobbyRoster request) (some loadUk1900Map) = .ok state := h
  obtain ⟨-, assigned, -, rfl⟩ := assigned_of_initialized hdefault
  constructor
  · intro city hcity
    obtain ⟨cityId, hget⟩ := OrdDict.mem_values.1 hcity
    change (OrdDict.mapVals _ _).get? cityId = some city at hget
    rw [OrdDict.get?_mapVals] at hget
    obtain ⟨definition, -, rfl⟩ := Option.map_eq_some_iff.1 hget
    refine ⟨?_, ?_, fun item hitem => absurd hitem List.not_mem_nil⟩
    · dsimp only [buildCityState]
      cases definition.primaryResource <;> decide
    · change (⟨0, 0, 0⟩ : CityUpgradeState).FieldsValid
      decide
  · exact fun army harmy => absurd harmy List.not_mem_nil

theorem partsValid_tick {record : MatchRecord} (h : PartsValid record.state) :
    PartsValid (advanceMatchTick record).1.state := by
  cases hsettled : settledBoard record with
  | error error =>
      rw [(advanceMatchTick_of_error hsettled).1]
      exact h
  | ok settled =>
      rw [(advanceMatchTick_of_settled hsettled).1]
      exact PartsValid.congr (boardValid_resolveThroughDiplomacy h.1 h.2 hsettled) rfl rfl

theorem partsValid_kept : KeptByMatches (fun _ => PartsValid) (fun record => PartsValid record.state) fun _ _ _ => True where
  lobby := fun _ _ _ h => partsValid_lobby h
  loaded := fun _ h _ _ => h
  command := fun _ _ _ _ _ _ h hcommand =>
    (negotiated_applyMatchCommand hcommand).keeps (fun _ _ _ hkept => hkept.congr rfl rfl) h
  tick := fun _ h => partsValid_tick h
  persists := fun _ h => h

/-! ### Runs of requests -/

section Runs

variable {hashApiKey : String → String} {variant : StorageVariant} {guided : GuidedServer}
  {P : String → MatchState → Prop} {Q : MatchRecord → Prop}

/-- What lobbies start with, and loads, commands, ticks and overrides keep, requests keep. -/
theorem holds_apiStep (hkept : KeptByMatches P Q fun _ _ _ => True)
    (hoverride : ∀ record playerId tick envelope, Q record → Q (replacePlayerSubmissions record playerId tick envelope).1)
    (h : guided.Holds P Q) (event : ApiEvent) : (apiStep hashApiKey variant guided event).Holds P Q := by
  have hadmits : ∀ event : ServerEvent, AdmitsCommand (fun _ _ _ => True) guided.toServer event := by
    intro event
    cases event with
    | command matchId playerId command => exact fun _ _ => trivial
    | _ => trivial
  have heffect : ApiEffect hashApiKey variant guided event (apiStep hashApiKey variant guided event) :=
    apiStep_effect guided event
  generalize apiStep hashApiKey variant guided event = next at heffect
  cases heffect with
  | refused => exact h
  | host event => exact h.step hkept (hadmits event.1)
  | @written _ matchId playerId request record applied accepted hrecord hplayer hwrite =>
      have hstep : (serverStep hashApiKey variant guided.toServer
          (.command matchId playerId (commandOfWrite request))).Holds P Q := h.step hkept (hadmits _)
      rw [serverStep_of_write hrecord hwrite] at hstep
      exact hstep
  | advised => exact h
  | @overridden request orders record seat supersededCount overrides hrecord htick hseat hadd =>
      have hidentity : (replacePlayerSubmissions record seat.playerId request.tick
          ⟨record.matchId, seat.playerId, request.tick, orders⟩).1.identity = record.identity := rfl
      obtain ⟨row, hrow, hmoved⟩ := matchMoved_store (guided.storeRecord request.matchId _) h hrecord hidentity rfl rfl
      exact h.moved hmoved (fun hopen => hoverride _ _ _ _ ((h.live _ _ hrecord).2.1 hopen)) (h.persisted _ row hrow)

theorem holds_apiRun (hkept : KeptByMatches P Q fun _ _ _ => True)
    (hoverride : ∀ record playerId tick envelope, Q record → Q (replacePlayerSubmissions record playerId tick envelope).1)
    (hempty : guided.HoldsNoMatch) (events : List ApiEvent) :
    ∀ reached ∈ Run.states (apiStep hashApiKey variant) guided events, reached.Holds P Q :=
  Run.invariant (I := fun reached : GuidedServer => reached.Holds P Q)
    (fun _ event hholds => holds_apiStep hkept hoverride hholds event) hempty.holds events

end Runs

/-! ### Projections -/

theorem projectAgentState_of_armies {state : MatchState} (harmies : ArmiesValid state.armies) {playerId : String}
    {player : PlayerState} (hplayer : state.players.get? playerId = some player) (matchId : String) :
    ∃ projection, projectAgentState state playerId matchId none = .ok projection ∧ projection.playerId = playerId := by
  have hprojected : ∃ visible, projectedArmies state (alliedPlayerIds state playerId player)
      (visibleCityIds loadUk1900Map (fullVisibilityCityIds state (alliedPlayerIds state playerId player))) = .ok visible := by
    refine ⟨_, mapM_eq_ok_map fun army harmy => modelValidate_armyFields (harmies army ?_) _⟩
    exact (List.mem_insertionSort _).1 (List.mem_of_mem_filter harmy)
  obtain ⟨visible, hvisible⟩ := hprojected
  unfold projectAgentState
  rw [hplayer]
  simp only [Option.getD_none, hvisible]
  exact ⟨_, rfl, rfl⟩

/-! ### Seats -/

section Seats

variable {hashApiKey : String → String} {variant : StorageVariant} {server : Server} {guided : GuidedServer}
  {matchId playerId : String} {record : MatchRecord} {row : MatchRow}

/-- The players of a state are at least as many as the seats. -/
theorem Server.KnowsCallers.player_there (h : server.KnowsCallers hashApiKey)
    (hrecord : server.registry.getMatch matchId = some record) {occupant : Occupant}
    (hsits : Sits hashApiKey server.database matchId occupant playerId) :
    ∃ player, record.state.players.get? playerId = some player := by
  obtain ⟨-, row, hrow, hkeys⟩ := h.seats.live matchId record hrecord
  obtain rfl := Table.key_of_get? hrow
  obtain ⟨k, n, hk, hseated, hnumbered⟩ := h.seats.matchSeats row.id row hrow
  obtain ⟨seat, hseat, -, i, hid, rfl⟩ := hsits
  obtain ⟨player, hplayer, rfl⟩ := List.mem_map.1 hseat
  obtain ⟨j, hfirst, hlast, hj⟩ := (hseated.rows player.id).1 (List.mem_map_of_mem hplayer)
  obtain rfl : j = i := scoped_injective _ (hj.symm.trans hid)
  have hthere : canonicalPlayerId j ∈ record.state.players.keys := by
    rw [hkeys]
    exact (hnumbered _).2 ⟨j, hfirst, by omega, rfl⟩
  exact OrdDict.mem_keys.1 hthere

/-- The mapping of the rows takes the row of a seat to the seat's player. -/
theorem Server.KnowsCallers.mapped (h : server.KnowsCallers hashApiKey)
    (hrow : server.database.matchRows.get? row.id = some row) {player : PlayerRow}
    (hplayer : player ∈ server.database.playersOfMatch row.id) {i : Nat} (hid : player.id = buildMatchScopedPlayerId row.id i) :
    (persistedPlayerMapping row.state (server.database.playersOfMatch row.id)).get? player.id = some (canonicalPlayerId i) := by
  obtain ⟨k, n, hk, hseated, hnumbered⟩ := h.seats.matchSeats row.id row hrow
  exact hseated.get?_mapping hnumbered hk hplayer hid

theorem loadMatchPlayers_of_row (hrow : sessionGet variant server.database.matchRows matchId = .ok (some row)) :
    loadMatchPlayers variant server.database matchId =
      if row.state.FieldsValid then .ok (some (row.state, server.database.playersOfMatch matchId))
      else .error .validationError := by
  unfold loadMatchPlayers
  rw [hrow]

/-- A human is found among the rows as long as they can be read. -/
theorem resolveHumanPlayerId_iff (h : server.KnowsCallers hashApiKey)
    (hrecord : server.registry.getMatch matchId = some record)
    (hrow : sessionGet variant server.database.matchRows matchId = .ok (some row)) {userId : String}
    (hsits : Sits hashApiKey server.database matchId (.human userId) playerId) :
    server.resolveHumanPlayerId variant matchId userId =
      if row.state.FieldsValid then .ok playerId else .error (.persistence .validationError) := by
  have hfound : server.database.matchRows.get? matchId = some row := (sessionGet_eq_ok hrow).symm
  obtain rfl := Table.key_of_get? hfound
  by_cases hvalid : row.state.FieldsValid
  · rw [if_pos hvalid]
    have hseated := hsits
    obtain ⟨seat, hseat, hoccupant, -⟩ := hseated
    obtain ⟨player, hplayer, rfl⟩ := List.mem_map.1 hseat
    have hperson : player.userId = userId ∧ player.isAgent = false := by
      have hkind : occupantOfRow hashApiKey server.database player = .human userId := hoccupant
      unfold occupantOfRow at hkind
      split at hkind
      · cases hkind
      · rename_i hhuman
        exact ⟨Occupant.human.inj hkind, by simpa using hhuman⟩
    have hsome : ((server.database.playersOfMatch row.id).find? fun player =>
        player.userId = userId ∧ player.isAgent = false).isSome := by
      rw [List.find?_isSome]
      exact ⟨player, hplayer, by simpa using hperson⟩
    obtain ⟨first, hfirst⟩ := Option.isSome_iff_exists.1 hsome
    have hmem := List.mem_of_find?_eq_some hfirst
    obtain ⟨k, n, -, hseated, -⟩ := h.seats.matchSeats row.id row hfound
    obtain ⟨j, -, -, hid⟩ := (hseated.rows first.id).1 (List.mem_map_of_mem hmem)
    have hresolved : IronCouncil.resolveHumanPlayerId variant server.database row.id userId =
        .ok (some (canonicalPlayerId j)) := by
      unfold IronCouncil.resolveHumanPlayerId
      rw [loadMatchPlayers_of_row hrow, if_pos hvalid]
      simp only [Except.map, Option.bind_some, hfirst, h.mapped hfound hmem hid]
    have hplays : server.resolveHumanPlayerId variant row.id userId = .ok (canonicalPlayerId j) := by
      unfold Server.resolveHumanPlayerId
      rw [hrecord]
      simp only [hresolved]
    rw [hplays]
    exact congrArg Except.ok ((Sits.eq_iff h.seats (h.sits_human hplays) hsits).1 rfl)
  · rw [if_neg hvalid]
    unfold Server.resolveHumanPlayerId IronCouncil.resolveHumanPlayerId
    rw [hrecord, loadMatchPlayers_of_row hrow, if_neg hvalid]
    rfl

/-- The row of a seat is found as long as the rows can be read. -/
theorem requirePersistedMatchPlayerId_iff (h : server.KnowsCallers hashApiKey)
    (hrow : sessionGet variant server.database.matchRows matchId = .ok (some row)) {occupant : Occupant}
    (hsits : Sits hashApiKey server.database matchId occupant playerId) (agentId : String) :
    (∃ persistedPlayerId, server.requirePersistedMatchPlayerId variant matchId playerId agentId = .ok persistedPlayerId) ↔
      row.state.FieldsValid := by
  have hfound : server.database.matchRows.get? matchId = some row := (sessionGet_eq_ok hrow).symm
  obtain rfl := Table.key_of_get? hfound
  unfold Server.requirePersistedMatchPlayerId resolvePersistedMatchPlayerId
  rw [loadMatchPlayers_of_row hrow]
  by_cases hvalid : row.state.FieldsValid
  · rw [if_pos hvalid]
    refine iff_of_true ?_ hvalid
    obtain ⟨seat, hseat, -, i, hid, rfl⟩ := hsits
    obtain ⟨player, hplayer, rfl⟩ := List.mem_map.1 hseat
    have hsome : ((persistedPlayerMapping row.state (server.database.playersOfMatch row.id)).entries.find? fun entry =>
        entry.2 = canonicalPlayerId i).isSome := by
      rw [List.find?_isSome]
      exact ⟨(player.id, canonicalPlayerId i), OrdDict.get?_eq_some.1 (h.mapped hfound hplayer hid), by simp⟩
    obtain ⟨entry, hentry⟩ := Option.isSome_iff_exists.1 hsome
    simp only [Except.map, Option.bind_some, hentry, Option.map_some]
    exact ⟨_, rfl⟩
  · rw [if_neg hvalid]
    refine iff_of_false ?_ hvalid
    intro hfound
    obtain ⟨persistedPlayerId, hok⟩ := hfound
    cases hok

theorem projectState_seat (h : server.KnowsCallers hashApiKey) (harmies : ArmiesValid record.state.armies)
    (hrecord : server.registry.getMatch matchId = some record) {occupant : Occupant}
    (hsits : Sits hashApiKey server.database matchId occupant playerId) :
    ∃ projection, projectState record playerId matchId = .ok projection ∧ projection.playerId = playerId := by
  obtain ⟨player, hplayer⟩ := h.player_there hrecord hsits
  obtain ⟨projection, hprojection, hsame⟩ := projectAgentState_of_armies harmies hplayer matchId
  refine ⟨projection, ?_, hsame⟩
  unfold projectState
  rw [hprojection]
  rfl

theorem requireJoinedPlayerId_seat (h : server.KnowsCallers hashApiKey)
    (hrecord : server.registry.getMatch matchId = some record) {agent : AuthenticatedAgentContext}
    (hsits : Sits hashApiKey server.database matchId (.agent agent.agentId) playerId) :
    server.requireJoinedPlayerId matchId agent = .ok playerId := by
  have hjoined : record.joinedAgents.get? agent.agentId = some playerId :=
    (h.joined matchId record hrecord (.agent agent.agentId) playerId).2 hsits
  unfold Server.requireJoinedPlayerId IronCouncil.requireJoinedPlayerId
  simp only [hrecord, hjoined]
  rfl

/-- A human is served as long as the match's row can be read. -/
theorem getMatchState_human_iff (h : server.KnowsCallers hashApiKey) (harmies : ArmiesValid record.state.armies)
    (hrecord : server.registry.getMatch matchId = some record)
    (hrow : sessionGet variant server.database.matchRows matchId = .ok (some row)) {userId : String}
    (hsits : Sits hashApiKey server.database matchId (.human userId) playerId) :
    (∃ state, server.getMatchState hashApiKey variant ⟨none, some userId⟩ matchId = .ok state ∧ state.playerId = playerId) ↔
      row.state.FieldsValid := by
  have hplayer : server.resolveMatchPlayerId hashApiKey variant matchId ⟨none, some userId⟩ =
      if row.state.FieldsValid then .ok playerId else .error (.persistence .validationError) :=
    resolveHumanPlayerId_iff h hrecord hrow hsits
  unfold Server.getMatchState
  rw [hrecord]
  by_cases hvalid : row.state.FieldsValid
  · rw [if_pos hvalid] at hplayer
    simp only [hplayer]
    exact iff_of_true (projectState_seat h harmies hrecord hsits) hvalid
  · rw [if_neg hvalid] at hplayer
    simp only [hplayer]
    refine iff_of_false ?_ hvalid
    intro hserved
    obtain ⟨state, hok, -⟩ := hserved
    cases hok

theorem getMatchState_agent (h : server.KnowsCallers hashApiKey) (harmies : ArmiesValid record.state.armies)
    (hrecord : server.registry.getMatch matchId = some record) {apiKey : String} {agent : AuthenticatedAgentContext}
    (hagent : server.resolveAuthenticatedAgentContext hashApiKey (some apiKey) = some agent)
    (hsits : Sits hashApiKey server.database matchId (.agent agent.agentId) playerId) (humanUserId : Option String) :
    ∃ state, server.getMatchState hashApiKey variant ⟨some apiKey, humanUserId⟩ matchId = .ok state ∧
      state.playerId = playerId := by
  have hplayer : server.resolveMatchPlayerId hashApiKey variant matchId ⟨some apiKey, humanUserId⟩ = .ok playerId := by
    unfold Server.resolveMatchPlayerId Server.getAuthenticatedAgent
    simp only [hagent]
    exact requireJoinedPlayerId_seat h hrecord hsits
  unfold Server.getMatchState
  rw [hrecord]
  simp only [hplayer]
  exact projectState_seat h harmies hrecord hsits

/-- An agent is briefed as long as its key is not looked up, or the match's row can be read. -/
theorem getAgentBriefing_iff (h : guided.KnowsCallers hashApiKey) (harmies : ArmiesValid record.state.armies)
    (hrecord : guided.registry.getMatch matchId = some record)
    (hrow : sessionGet variant guided.database.matchRows matchId = .ok (some row)) {apiKey : String}
    {agent : AuthenticatedAgentContext}
    (hagent : guided.resolveAuthenticatedAgentContext hashApiKey (some apiKey) = some agent)
    (hsits : Sits hashApiKey guided.database matchId (.agent agent.agentId) playerId) (sinceTick : Option Nat) :
    (∃ briefing, guided.getAgentBriefing hashApiKey variant (some apiKey) matchId sinceTick = .ok briefing ∧
        briefing.playerId = playerId) ↔
      guided.resolveAuthenticatedAgentOwnerUserId hashApiKey (some apiKey) = none ∨ row.state.FieldsValid := by
  have hauthenticated : guided.getAuthenticatedAgent hashApiKey (some apiKey) = .ok agent := by
    unfold Server.getAuthenticatedAgent
    rw [hagent]
  have hjoined := requireJoinedPlayerId_seat h hrecord hsits
  obtain ⟨projection, hprojection, -⟩ := projectState_seat h harmies hrecord hsits
  unfold GuidedServer.getAgentBriefing
  simp only [hauthenticated, hrecord, hjoined, GuidedServer.guidanceOfOwner]
  cases howner : guided.resolveAuthenticatedAgentOwnerUserId hashApiKey (some apiKey) with
  | none =>
      simp only [hprojection]
      exact iff_of_true ⟨_, rfl, rfl⟩ (Or.inl trivial)
  | some ownerUserId =>
      have hpersisted := requirePersistedMatchPlayerId_iff h hrow hsits agent.agentId
      simp only [reduceCtorEq, false_or, ← hpersisted]
      cases hfound : guided.requirePersistedMatchPlayerId variant matchId playerId agent.agentId with
      | error error =>
          refine iff_of_false ?_ ?_
          · intro hserved
            obtain ⟨briefing, hok, -⟩ := hserved
            cases hok
          · intro hserved
            obtain ⟨persistedPlayerId, hok⟩ := hserved
            cases hok
      | ok persistedPlayerId =>
          simp only [Except.map, hprojection]
          exact iff_of_true ⟨_, rfl, rfl⟩ ⟨_, rfl⟩

/-- An owner watches as long as the match's row can be read. -/
theorem getOwnedAgentGuidedSession_iff (h : guided.KnowsCallers hashApiKey) (harmies : ArmiesValid record.state.armies)
    (hrecord : guided.registry.getMatch matchId = some record)
    (hrow : sessionGet variant guided.database.matchRows matchId = .ok (some row)) {userId agentId : String}
    {agent : AuthenticatedAgentContext} (howned : resolveOwnedAgentContext hashApiKey guided.database userId agentId = some agent)
    (hsits : Sits hashApiKey guided.database matchId (.agent agentId) playerId) :
    (∃ session, guided.getOwnedAgentGuidedSession hashApiKey variant (some userId) matchId agentId = .ok session ∧
        session.playerId = playerId) ↔ row.state.FieldsValid := by
  obtain rfl : agent.agentId = agentId := (resolveOwnedAgentContext_eq_some howned).1
  have hjoined := requireJoinedPlayerId_seat h hrecord hsits
  obtain ⟨player, hplayer⟩ := h.player_there hrecord hsits
  obtain ⟨projection, hprojection, -⟩ := projectState_seat h harmies hrecord hsits
  rw [← requirePersistedMatchPlayerId_iff h hrow hsits agent.agentId]
  unfold GuidedServer.getOwnedAgentGuidedSession Server.requireOwnedAgentContext Server.requireAuthenticatedHumanUserId
  simp only [howned, hrecord, hjoined, hplayer]
  cases hfound : guided.requirePersistedMatchPlayerId variant matchId playerId agent.agentId with
  | error error =>
      refine iff_of_false ?_ ?_
      · intro hserved
        obtain ⟨session, hok, -⟩ := hserved
        cases hok
      · intro hserved
        obtain ⟨persistedPlayerId, hok⟩ := hserved
        cases hok
  | ok persistedPlayerId =>
      simp only [hprojection]
      exact iff_of_true ⟨_, rfl, rfl⟩ ⟨_, rfl⟩

/-- From a server without matches, whatever is asked of it: in an open match an agent with a seat always sees the state, and the human or the owner of a seat does, and a current key is briefed, exactly as long as no player of the match's row is in debt. -/
theorem seat_served_iff (hempty : guided.HoldsNoMatch) (hnone : guided.registry = .empty) (events : List ApiEvent) :
    ∀ reached ∈ Run.states (apiStep hashApiKey variant) guided events, ∀ matchId record row,
      reached.registry.getMatch matchId = some record → record.status ≠ .completed →
        sessionGet variant reached.database.matchRows matchId = .ok (some row) →
          (∀ userId playerId, Sits hashApiKey reached.database matchId (.human userId) playerId →
            ((∃ state, reached.getMatchState hashApiKey variant ⟨none, some userId⟩ matchId = .ok state ∧
              state.playerId = playerId) ↔ Solvent row.state)) ∧
          (∀ apiKey agent playerId, reached.resolveAuthenticatedAgentContext hashApiKey (some apiKey) = some agent →
            Sits hashApiKey reached.database matchId (.agent agent.agentId) playerId → ∀ humanUserId sinceTick,
              (∃ state, reached.getMatchState hashApiKey variant ⟨some apiKey, humanUserId⟩ matchId = .ok state ∧
                state.playerId = playerId) ∧
              ((∃ briefing, reached.getAgentBriefing hashApiKey variant (some apiKey) matchId sinceTick = .ok briefing ∧
                  briefing.playerId = playerId) ↔
                reached.resolveAuthenticatedAgentOwnerUserId hashApiKey (some apiKey) = none ∨ Solvent row.state)) ∧
          ∀ userId agentId agent playerId,
            resolveOwnedAgentContext hashApiKey reached.database userId agentId = some agent →
              Sits hashApiKey reached.database matchId (.agent agentId) playerId →
                ((∃ session, reached.getOwnedAgentGuidedSession hashApiKey variant (some userId) matchId agentId =
                  .ok session ∧ session.playerId = playerId) ↔ Solvent row.state) := by
  intro reached hreached matchId record row hrecord hopen hrow
  have hknows := knowsCallers_run (hempty.knowsCallers hnone) events reached hreached
  have hholds := holds_apiRun partsValid_kept (fun _ _ _ _ hkept => hkept) hempty events reached hreached
  obtain ⟨-, hparts, stored, hstored, hstatus⟩ := hholds.live matchId record hrecord
  have hfound : reached.database.matchRows.get? matchId = some row := (sessionGet_eq_ok hrow).symm
  obtain rfl : stored = row := Option.some.inj (hstored.symm.trans hfound)
  have hsolvent : stored.state.FieldsValid ↔ Solvent stored.state :=
    (hholds.persisted matchId stored hfound (hstatus.symm ▸ hopen)).fieldsValid_iff
  have harmies : ArmiesValid record.state.armies := (hparts hopen).2
  rw [← hsolvent]
  refine ⟨?_, ?_, ?_⟩
  · exact fun userId playerId hsits => getMatchState_human_iff hknows harmies hrecord hrow hsits
  · exact fun apiKey agent playerId hagent hsits humanUserId sinceTick =>
      ⟨getMatchState_agent hknows harmies hrecord hagent hsits humanUserId,
        getAgentBriefing_iff hknows harmies hrecord hrow hagent hsits sinceTick⟩
  · exact fun userId agentId agent playerId howned hsits =>
      getOwnedAgentGuidedSession_iff hknows harmies hrecord hrow howned hsits

end Seats

/-! ### The guest's seat -/

theorem matchOfAgent_reached :
    matchOfAgent ∈ Run.states (apiStep deploymentHash .sqlite) guidedDeployment (agentLobby ++ guestEnters) := by
  have hlast : (agentLobby ++ guestEnters).foldl (apiStep deploymentHash .sqlite) guidedDeployment ∈
      Run.states (apiStep deploymentHash .sqlite) guidedDeployment (agentLobby ++ guestEnters) := Run.foldl_mem_states _ _
  rw [List.foldl_append] at hlast
  exact hlast

theorem seat_served_iff_guest :
    ∃ row, matchOfAgent.database.matchRows.get? deploymentMatchId = some row ∧
      ((∃ state, matchOfAgent.getMatchState deploymentHash .sqlite ⟨none, some deploymentGuest⟩ deploymentMatchId = .ok state ∧
        state.playerId = canonicalPlayerId 2) ↔ Solvent row.state) := by
  have hstored : (matchOfAgent.database.matchRows.get? deploymentMatchId).isSome = true := by decide +kernel
  have hlive : (matchOfAgent.registry.getMatch deploymentMatchId).any (fun record => record.status ≠ .completed) = true := by
    decide +kernel
  have hguest : matchOfAgent.resolveHumanPlayerId .sqlite deploymentMatchId deploymentGuest = .ok (canonicalPlayerId 2) := by
    decide +kernel
  obtain ⟨row, hrow⟩ := Option.isSome_iff_exists.1 hstored
  obtain ⟨record, hrecord, hopen⟩ := (Option.any_eq_true _ _).1 hlive
  have hsits := (knowsCallers_run (deployment_holdsNoMatch.knowsCallers rfl) (agentLobby ++ guestEnters) matchOfAgent
    matchOfAgent_reached).sits_human hguest
  exact ⟨row, hrow, (seat_served_iff deployment_holdsNoMatch rfl (agentLobby ++ guestEnters) matchOfAgent
    matchOfAgent_reached deploymentMatchId record row hrecord (by simpa using hopen) (congrArg Except.ok hrow)).1
      deploymentGuest (canonicalPlayerId 2) hsits⟩

end IronCouncil
