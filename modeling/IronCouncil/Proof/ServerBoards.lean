import IronCouncil.Proof.OrderQueue
import IronCouncil.Proof.StartingCities
import IronCouncil.Proof.JoinedPlayers
import IronCouncil.Proof.Restart
import IronCouncil.Proof.ServerRuns

/-!
# The boards of a server

A new match starts on a consistent board, with every player on it. Commands only change alliances, and a tick of a consistent board completes and leaves one. So every open match of a server has such a board in every state of a run, in the tables and in the registry, and no round of a match's loop fails while the tick resolves.
-/

namespace IronCouncil

/-- A consistent board, with the eliminations recorded, on which a tick does not raise. -/
structure SoundBoard (state : MatchState) : Prop where
  recorded : BoardRecorded state
  supplied : Supplied state

theorem SoundBoard.tickSafe {state : MatchState} (h : SoundBoard state) : TickSafe state :=
  ⟨h.recorded.consistent.within, h.supplied⟩

/-! ### A new match -/

section NewMatch

variable {mapDefinition : MapDefinition} {roster : List MatchRosterEntry} {config : MatchConfig} {state : MatchState}

theorem assigned_of_initialized (h : initializeMatchState config roster (some mapDefinition) = .ok state) :
    minStartingCityCount ≤ config.startingCitiesPerPlayer ∧
      ∃ assigned, assignStartingCities config roster mapDefinition = .ok assigned ∧
        state = buildMatchState config roster mapDefinition assigned := by
  unfold initializeMatchState at h
  dsimp only [Option.getD_some] at h
  split at h
  · cases h
  · split at h
    · cases h
    · rename_i hcount
      obtain ⟨assigned, hassigned, hbuilt⟩ := Except.map_eq_ok h
      exact ⟨Nat.le_of_not_lt fun hlt => hcount (Or.inl hlt), assigned, hassigned, hbuilt.symm⟩

theorem buildMatchState_player (hnodup : (roster.map (·.playerId)).Nodup) {assigned : StartingAssignments}
    {playerId : String} {player : PlayerState}
    (h : (buildMatchState config roster mapDefinition assigned).players.get? playerId = some player) :
    playerId ∈ roster.map (·.playerId) ∧ player = buildPlayerState config (assigned.citiesOf playerId) := by
  have hkeys : ((roster.map fun rosterEntry : MatchRosterEntry =>
      (rosterEntry.playerId, buildPlayerState config (assigned.citiesOf rosterEntry.playerId))).map Prod.fst).Nodup := by
    rw [List.map_map]
    exact hnodup
  obtain ⟨entry, hentry, heq⟩ := List.mem_map.1 ((OrdDict.get?_ofList_of_nodup hkeys).1 h)
  cases heq
  exact ⟨List.mem_map_of_mem hentry, rfl⟩

/-- In a new match every player lists the cities it owns, and owns some. -/
theorem boardRecorded_of_initialized (hnodup : (roster.map (·.playerId)).Nodup)
    (hoverrides : OverridesComplete roster config.startingCitiesPerPlayer)
    (h : initializeMatchState config roster (some mapDefinition) = .ok state)
    (hwithin : BoardWithin (· ∈ state.players.keys) state) : BoardRecorded state := by
  have howner := cityOwner_iff_of_initialized hnodup h
  obtain ⟨hcount, assigned, hassigned, rfl⟩ := assigned_of_initialized h
  have hplan := plan_of_assigned hnodup hoverrides hassigned
  refine ⟨⟨?_, hwithin⟩, ?_⟩
  · intro playerId citiesOwned hheld
    obtain ⟨player, hplayer, rfl⟩ := MatchState.mem_holdings.1 hheld
    obtain ⟨hmember, hbuilt⟩ := buildMatchState_player hnodup hplayer
    refine ⟨hbuilt ▸ hplan.nodup playerId hmember, fun cityId => ?_⟩
    beta_reduce
    rw [howner, hplayer]
    simp
  · intro playerId hplayer
    obtain ⟨player, hget⟩ := OrdDict.mem_keys.1 hplayer
    obtain ⟨hmember, hbuilt⟩ := buildMatchState_player hnodup hget
    have hplaying : ¬Eliminated (buildMatchState config roster mapDefinition assigned) playerId := by
      rintro ⟨found, hfound, heliminated⟩
      rw [hget] at hfound
      rw [← Option.some.inj hfound, hbuilt] at heliminated
      cases heliminated
    have hlength : 0 < (assigned.citiesOf playerId).length := by
      rw [hplan.length playerId hmember]
      exact Nat.lt_of_lt_of_le (by decide) hcount
    obtain ⟨cityId, hcity⟩ := List.exists_mem_of_length_pos hlength
    have hpresent : ¬Absent (buildMatchState config roster mapDefinition assigned) playerId := fun habsent =>
      habsent.1 cityId ((howner cityId playerId).2 ⟨player, hget, hbuilt ▸ hcity⟩)
    exact iff_of_false hplaying hpresent

end NewMatch

theorem lobbyRoster_ids (request : MatchLobbyCreateRequest) : ((lobbyRoster request).map (·.playerId)).Nodup := by
  unfold lobbyRoster
  rw [List.map_map]
  exact List.Nodup.map (numberedName_injective _) List.nodup_range'

theorem soundBoard_lobby {request : MatchLobbyCreateRequest} {state : MatchState}
    (h : initializeMatchState (lobbyConfig request) (lobbyRoster request) none = .ok state) : SoundBoard state := by
  have hsafe : TickSafe state := tickSafe_initializeMatchState h (by simp [lobbyConfig])
  have hoverrides : OverridesComplete (lobbyRoster request) (lobbyConfig request).startingCitiesPerPlayer := by
    intro entry hentry startingCityIds hids
    obtain ⟨playerIndex, -, rfl⟩ := List.mem_map.1 hentry
    cases hids
  have hdefault : initializeMatchState (lobbyConfig request) (lobbyRoster request) (some loadUk1900Map) = .ok state := h
  exact ⟨boardRecorded_of_initialized (lobbyRoster_ids request) hoverrides hdefault hsafe.within, hsafe.supplied⟩

/-! ### Commands and ticks -/

theorem SoundBoard.setAlliance {state : MatchState} (h : SoundBoard state) (playerId : String)
    (allianceId : Option String) : SoundBoard (syncVictoryState (setAlliance state playerId allianceId)) where
  recorded := (boardRecorded_step h.recorded (.alliance playerId allianceId)).1
  supplied := (TickSafe.congr (h.tickSafe.setAlliance playerId allianceId) rfl rfl rfl :
    TickSafe (syncVictoryState (IronCouncil.setAlliance state playerId allianceId))).supplied

theorem SoundBoard.command {record next : MatchRecord} (h : SoundBoard record.state) {playerId : String}
    {command : MatchCommand} {accepted : CommandAcceptance}
    (hcommand : applyMatchCommand record playerId command = .ok (next, accepted)) : SoundBoard next.state :=
  state_applyMatchCommand (fun _ _ _ hsound => hsound.setAlliance _ _) hcommand h

/-- The tick of a record with a sound board completes, on a sound board. -/
theorem SoundBoard.tick {record : MatchRecord} (h : SoundBoard record.state) :
    SoundBoard (advanceMatchTick record).1.state ∧ ∃ advanced, (advanceRegistryTick record).2 = .ok advanced := by
  obtain ⟨settled, hsettled, hsafe⟩ := h.tickSafe.settledBoard
  obtain ⟨hstate, hresult⟩ := advanceMatchTick_of_settled hsettled
  refine ⟨⟨?_, ?_⟩, _, congrArg (Except.map _) hresult⟩
  · rw [advanceMatchTick_eq_boardStep]
    exact (boardRecorded_step h.recorded _).1
  · rw [hstate]
    exact (TickSafe.congr hsafe rfl rfl rfl : TickSafe (syncVictoryState (tickedState record settled))).supplied

theorem soundBoards_kept : KeptByMatches (fun _ => SoundBoard) (fun record => SoundBoard record.state)
    fun _ _ _ => True where
  lobby := fun _ _ _ h => soundBoard_lobby h
  loaded := fun _ h _ _ => h
  command := fun _ _ _ _ _ _ h hcommand => h.command hcommand
  tick := fun _ h => h.tick.1
  persists := fun _ h => h

/-! ### Runs -/

section Runs

variable {hashApiKey : String → String} {variant : StorageVariant} {server : Server}

theorem soundBoards_run (h : server.HoldsNoMatch) (events : List ServerEvent) :
    ∀ reached ∈ Run.states (serverStep hashApiKey variant) server events,
      reached.Holds (fun _ => SoundBoard) fun record => SoundBoard record.state := by
  refine h.holds.run soundBoards_kept ?_
  rintro ⟨reached, event⟩ -
  cases event with
  | command matchId playerId command => exact fun _ _ => trivial
  | _ => trivial

/-- What a failed round of a match's loop can have failed at, and what it leaves of the server. -/
def RoundFails (server : Server) (matchId : String) (after : Server) : ServerError → Prop
  | .api code message => ServerError.api code message = matchNotFound matchId ∧ server.registry.getMatch matchId = none
  | .runtime .notRunning => ∃ record, server.registry.getMatch matchId = some record ∧ record.status ≠ .active
  | .runtime (.persistence _) =>
      after.database = server.database ∧ ∀ id, after.registry.getMatch id = server.registry.getMatch id
  | _ => False

theorem tick_roundFails {matchId : String} {newId : Nat → String} {elapsed : Nat} {error : ServerError}
    (hsound : ∀ record, server.registry.getMatch matchId = some record → record.status ≠ .completed →
      SoundBoard record.state)
    (h : (server.tick variant matchId newId elapsed).2 = .error error) :
    RoundFails server matchId (server.tick variant matchId newId elapsed).1 error := by
  unfold Server.tick at h ⊢
  cases hrecord : server.registry.getMatch matchId with
  | none =>
      rw [hrecord] at h
      cases h
      exact ⟨rfl, hrecord⟩
  | some record =>
      rw [hrecord] at h
      simp only [runMatchTick] at h ⊢
      by_cases hactive : record.status = .active
      · rw [if_neg (not_not.2 hactive)] at h ⊢
        obtain ⟨advanced, hadvanced⟩ := (hsound record hrecord (by rw [hactive]; decide)).tick.2
        simp only [hadvanced] at h ⊢
        cases hpersist : persistAdvancedMatchTick variant newId (server.readClock elapsed) server.database advanced with
        | ok database =>
            simp only [hpersist] at h
            cases h
        | error error =>
            simp only [hpersist] at h ⊢
            cases h
            refine ⟨rfl, fun id => ?_⟩
            have hstored : (server.registry.storeMatch matchId record).getMatch id =
                if id = matchId then some record else server.registry.getMatch id := OrdDict.get?_insert _ _ _ _
            change (server.registry.storeMatch matchId record).getMatch id = _
            rw [hstored]
            split
            · rename_i hid
              rw [hid, hrecord]
            · rfl
      · rw [if_pos hactive] at h
        cases h
        exact ⟨record, hrecord, hactive⟩

/-- In every state that a server without matches reaches, whatever is asked of it and whenever its loops tick, the boards of the open matches are consistent with the eliminations recorded, in the tables and in the registry, and a round of a loop fails only where the match is not running or the tick cannot be written; then nothing has changed. -/
theorem server_boards_sound (hempty : server.HoldsNoMatch) (events : List ServerEvent) :
    ∀ reached ∈ Run.states (serverStep hashApiKey variant) server events,
      (∀ row ∈ reached.database.matchRows.rows, row.status ≠ .completed → BoardRecorded row.state) ∧
      (∀ matchId record, reached.registry.getMatch matchId = some record → record.status ≠ .completed →
        BoardRecorded record.state) ∧
      ∀ matchId newId elapsed error, (reached.tick variant matchId newId elapsed).2 = .error error →
        RoundFails reached matchId (reached.tick variant matchId newId elapsed).1 error := by
  intro reached hreached
  have hholds := soundBoards_run hempty events reached hreached
  refine ⟨?_, ?_, ?_⟩
  · intro row hrow hopen
    exact (hholds.persisted row.id row (Table.get?_eq_some.2 ⟨hrow, rfl⟩) hopen).recorded
  · intro matchId record hrecord hopen
    exact ((hholds.live matchId record hrecord).2.1 hopen).recorded
  · intro matchId newId elapsed error herror
    exact tick_roundFails (fun record hrecord => (hholds.live matchId record hrecord).2.1) herror

end Runs

/-! ### A deployment that ticks -/

/-- A lobby of two players who start to play, and the first ticks. -/
def deployedTicks (ticks : Nat) : List ServerEvent :=
  deployedPair ++ List.replicate ticks (.tick deploymentMatchId deployedIds 0)

def deployedServer (ticks : Nat) : Server := (deployedTicks ticks).foldl (serverStep deploymentHash .sqlite) deployment

theorem deployedServer_reached (ticks : Nat) :
    deployedServer ticks ∈ Run.states (serverStep deploymentHash .sqlite) deployment (deployedTicks ticks) :=
  Run.foldl_mem_states deployment (deployedTicks ticks)

/-- A board after the first tick, and the round of the hungry allies, whose state fails its checks as it is written. -/
theorem server_boards_sound_deployed :
    (∃ row, (deployedServer 1).database.matchRows.get? deploymentMatchId = some row ∧ row.state.tick = 1 ∧
      BoardRecorded row.state) ∧
    ∃ error, (hungryServer.tick .sqlite deploymentMatchId deployedIds 0).2 = .error error ∧
      RoundFails hungryServer deploymentMatchId (hungryServer.tick .sqlite deploymentMatchId deployedIds 0).1 error ∧
      ((hungryServer.tick .sqlite deploymentMatchId deployedIds 0).1.database.matchRows.get? deploymentMatchId).map
        (·.state.tick) = some 5 := by
  constructor
  · obtain ⟨row, hrow, htick⟩ := Option.map_eq_some_iff.1
      (show ((deployedServer 1).database.matchRows.get? deploymentMatchId).map (fun row => (row.state.tick, row.status)) =
        some (1, .active) by decide +kernel)
    obtain ⟨hcurrent, hstatus⟩ := Prod.mk.inj htick
    refine ⟨row, hrow, hcurrent, ?_⟩
    refine (server_boards_sound deployment_holdsNoMatch (deployedTicks 1) (deployedServer 1) (deployedServer_reached 1)).1
      row (Table.mem_rows_of_get? hrow) ?_
    rw [hstatus]
    decide
  · have hfacts : (hungryServer.tick .sqlite deploymentMatchId deployedIds 0).2.toOption.isSome = false ∧
        ((hungryServer.tick .sqlite deploymentMatchId deployedIds 0).1.database.matchRows.get? deploymentMatchId).map
          (·.state.tick) = some 5 := by
      decide +kernel
    obtain ⟨hraises, hstays⟩ := hfacts
    have hreached : hungryServer ∈ Run.states (serverStep deploymentHash .sqlite) deployment hungryAllies :=
      Run.foldl_mem_states deployment hungryAllies
    cases hround : (hungryServer.tick .sqlite deploymentMatchId deployedIds 0).2 with
    | ok advancedTick => exact absurd hround (ne_ok_of_toOption hraises advancedTick)
    | error error =>
        exact ⟨error, rfl, (server_boards_sound deployment_holdsNoMatch hungryAllies hungryServer hreached).2.2 _ _ _ _
          hround, hstays⟩

end IronCouncil
