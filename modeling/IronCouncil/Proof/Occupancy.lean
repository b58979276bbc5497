import IronCouncil.Proof.MatchSteps
import IronCouncil.Proof.RatingRuns
import IronCouncil.Proof.ServerBoards

/-!
# Occupancy

An API key never plays in more lobbies and active matches than its owner's entitlement allows. A lobby creation and a join take up a match for a key once they have counted its matches; a start keeps a match taken up, and a victory gives it back.
-/

namespace IronCouncil

/-- The lobbies and active matches that an agent plays under a key in. -/
def occupiedMatches (db : Database) (apiKeyId : String) : List String :=
  (db.matchRows.rows.filter fun matchRow =>
    (matchRow.status = .lobby ∨ matchRow.status = .active) ∧
      db.players.rows.any fun player =>
        player.matchId = matchRow.id ∧ player.apiKeyId = some apiKeyId ∧ player.isAgent).map (·.id)

theorem length_occupiedMatches (db : Database) (apiKeyId : String) :
    (occupiedMatches db apiKeyId).length = countActiveMatchOccupancyForApiKey db apiKeyId := List.length_map _

theorem occupiedMatches_nodup (db : Database) (apiKeyId : String) : (occupiedMatches db apiKeyId).Nodup :=
  db.matchRows.nodup.sublist (List.filter_sublist.map _)

theorem mem_occupiedMatches {db : Database} {apiKeyId matchId : String} :
    matchId ∈ occupiedMatches db apiKeyId ↔ ∃ matchRow, db.matchRows.get? matchId = some matchRow ∧
      (matchRow.status = .lobby ∨ matchRow.status = .active) ∧
      ∃ player ∈ db.players.rows, player.matchId = matchId ∧ player.apiKeyId = some apiKeyId ∧ player.isAgent = true := by
  simp only [occupiedMatches, List.mem_map, List.mem_filter, decide_eq_true_eq, List.any_eq_true]
  constructor
  · rintro ⟨matchRow, ⟨hrow, hopen, hplayer⟩, rfl⟩
    exact ⟨matchRow, Table.get?_eq_some.2 ⟨hrow, rfl⟩, hopen, hplayer⟩
  · rintro ⟨matchRow, hfound, hopen, hplayer⟩
    obtain ⟨hrow, rfl⟩ := Table.get?_eq_some.1 hfound
    exact ⟨matchRow, ⟨hrow, hopen, hplayer⟩, rfl⟩

/-- How many matches the owner of a key is entitled to at once. -/
def matchAllowance (db : Database) (userId : String) : Nat :=
  (resolveEffectiveAgentEntitlement db userId).concurrentMatchAllowance

/-- The key can take up one more match. -/
def HasRoom (db : Database) (apiKeyId : String) : Prop :=
  ∃ apiKey ∈ db.apiKeys.rows, apiKey.id = apiKeyId ∧
    countActiveMatchOccupancyForApiKey db apiKeyId < matchAllowance db apiKey.userId

theorem hasRoom_of_requireMatchCapacity {raise : String → String → LobbyError} {db : Database} {apiKeyId : String}
    (h : requireMatchCapacity raise db apiKeyId = .ok ()) : HasRoom db apiKeyId := by
  unfold requireMatchCapacity getApiKeyMatchOccupancyEntitlement at h
  cases hfound : db.apiKeys.get? apiKeyId with
  | none =>
      rw [hfound] at h
      cases h
  | some apiKey =>
      rw [hfound] at h
      dsimp only at h
      split at h
      · cases h
      · split at h
        · cases h
        · rename_i hcapacity
          obtain ⟨hrow, hid⟩ := Table.get?_eq_some.1 hfound
          refine ⟨apiKey, hrow, hid, ?_⟩
          simp only [ApiKeyMatchEntitlement.hasCapacity, Bool.not_eq_false, Bool.and_eq_true, decide_eq_true_eq]
            at hcapacity
          exact hcapacity.2

/-! ### What a step takes up -/

/-- Each key keeps to its matches, or had room and takes up one more. New keys take up none. -/
structure TakesUp (db db' : Database) : Prop where
  occupied : ∀ apiKeyId, occupiedMatches db' apiKeyId ⊆ occupiedMatches db apiKeyId ∨
    (HasRoom db apiKeyId ∧ ∃ matchId, occupiedMatches db' apiKeyId ⊆ matchId :: occupiedMatches db apiKeyId)
  keys : ∀ apiKey' ∈ db'.apiKeys.rows,
    (∃ apiKey ∈ db.apiKeys.rows, apiKey.id = apiKey'.id ∧ apiKey.userId = apiKey'.userId) ∨
      occupiedMatches db' apiKey'.id = []
  grants : db'.agentEntitlementGrants = db.agentEntitlementGrants

/-- No key takes up more than its owner is entitled to. -/
def WithinEntitlements (db : Database) : Prop :=
  ∀ apiKey ∈ db.apiKeys.rows, countActiveMatchOccupancyForApiKey db apiKey.id ≤ matchAllowance db apiKey.userId

theorem WithinEntitlements.of_takesUp {db db' : Database} (h : WithinEntitlements db) (htakes : TakesUp db db') :
    WithinEntitlements db' := by
  intro apiKey' hrow'
  have hallowance : ∀ userId, matchAllowance db' userId = matchAllowance db userId := by
    intro userId
    unfold matchAllowance resolveEffectiveAgentEntitlement
    rw [htakes.grants]
  rw [hallowance, ← length_occupiedMatches]
  rcases htakes.keys apiKey' hrow' with ⟨apiKey, hrow, hid, huser⟩ | hnone
  · rw [← hid, ← huser]
    rcases htakes.occupied apiKey.id with hkept | ⟨⟨found, hfound, hsame, hroom⟩, matchId, hmore⟩
    · have hle := ((occupiedMatches_nodup db' apiKey.id).subperm hkept).length_le
      rw [length_occupiedMatches db] at hle
      exact hle.trans (h apiKey hrow)
    · obtain rfl := Table.eq_of_key hfound hrow hsame
      have hle := ((occupiedMatches_nodup db' found.id).subperm hmore).length_le
      rw [List.length_cons, length_occupiedMatches db] at hle
      omega
  · rw [hnone]
    exact Nat.zero_le _

theorem TakesUp.of_tables {db db' : Database} (hmatches : db'.matchRows = db.matchRows) (hplayers : db'.players = db.players)
    (hkeys : ∀ apiKey' ∈ db'.apiKeys.rows,
      (∃ apiKey ∈ db.apiKeys.rows, apiKey.id = apiKey'.id ∧ apiKey.userId = apiKey'.userId) ∨
        occupiedMatches db' apiKey'.id = [])
    (hgrants : db'.agentEntitlementGrants = db.agentEntitlementGrants) : TakesUp db db' := by
  refine ⟨fun apiKeyId => Or.inl ?_, hkeys, hgrants⟩
  unfold occupiedMatches
  rw [hmatches, hplayers]
  exact List.Subset.refl _

theorem TakesUp.refl (db : Database) : TakesUp db db :=
  .of_tables rfl rfl (fun apiKey hrow => Or.inl ⟨apiKey, hrow, rfl, rfl⟩) rfl

/-- A new row takes up its own match, for the key that it is under. -/
theorem takesUp_addPlayer {db db' : Database} {player : PlayerRow} {matchRows : Table MatchRow.id}
    (hadd : addPlayer { db with matchRows } player = .ok db')
    (hmatches : ∀ matchId, matchId ≠ player.matchId → matchRows.get? matchId = db.matchRows.get? matchId)
    (hmatch : ∀ matchRow, matchRows.get? player.matchId = some matchRow →
      db.matchRows.get? player.matchId = some matchRow ∨ ∀ other ∈ db.players.rows, other.matchId ≠ player.matchId)
    (hroom : ∀ matchRow, matchRows.get? player.matchId = some matchRow →
      matchRow.status = .lobby ∨ matchRow.status = .active → player.isAgent = true →
        ∀ apiKeyId, player.apiKeyId = some apiKeyId → HasRoom db apiKeyId) : TakesUp db db' := by
  have hplayers : db'.players.rows = db.players.rows ++ [player] := (addPlayer_tables hadd).2.2.2
  obtain ⟨players, -, rfl⟩ := addPlayer_eq_ok hadd
  refine ⟨fun apiKeyId => ?_, fun apiKey hrow => Or.inl ⟨apiKey, hrow, rfl, rfl⟩, rfl⟩
  -- what is new is the match of the new row, and only for an agent's row under the key
  have hcases : ∀ matchId ∈ occupiedMatches { db with matchRows, players } apiKeyId,
      matchId ∈ occupiedMatches db apiKeyId ∨ (matchId = player.matchId ∧ HasRoom db apiKeyId) := by
    intro matchId hmem
    obtain ⟨matchRow, hrow, hopen, found, hfound, hof, hkey, hagent⟩ := mem_occupiedMatches.1 hmem
    have hrow : matchRows.get? matchId = some matchRow := hrow
    rcases List.mem_append.1 (hplayers ▸ hfound) with hold | hnew
    · left
      refine mem_occupiedMatches.2 ⟨matchRow, ?_, hopen, found, hold, hof, hkey, hagent⟩
      by_cases hsame : matchId = player.matchId
      · subst hsame
        rcases hmatch matchRow hrow with hkept | hnone
        · exact hkept
        · exact absurd hof (hnone found hold)
      · rw [← hmatches matchId hsame, hrow]
    · right
      obtain rfl := List.mem_singleton.1 hnew
      subst hof
      exact ⟨rfl, hroom matchRow hrow hopen hagent apiKeyId hkey⟩
  by_cases hnew : ∃ matchId ∈ occupiedMatches { db with matchRows, players } apiKeyId,
      matchId ∉ occupiedMatches db apiKeyId
  · obtain ⟨matchId, hmem, hout⟩ := hnew
    right
    refine ⟨((hcases matchId hmem).resolve_left hout).2, player.matchId, fun other hother => ?_⟩
    rcases hcases other hother with hold | ⟨rfl, -⟩
    · exact List.mem_cons_of_mem _ hold
    · exact List.mem_cons_self
  · left
    intro matchId hmem
    by_contra hout
    exact hnew ⟨matchId, hmem, hout⟩

section Steps

variable {hashApiKey : String → String} {variant : StorageVariant} {server : Server}

theorem hasRoom_of_creator {db : Database} {actor : LobbyActor} {creator : PlayerIdentity}
    {agent : Option (AuthenticatedAgentContext × AuthenticatedAgentKeyRecord)}
    (h : resolveLobbyCreator hashApiKey db actor = .ok (creator, agent)) (hagent : creator.isAgent = true)
    {apiKeyId : String} (hkey : creator.apiKeyId = some apiKeyId) : HasRoom db apiKeyId := by
  cases actor with
  | agent keyHash =>
      unfold resolveLobbyCreator at h
      dsimp only at h
      split at h
      · cases h
      · split at h
        · cases h
        · rename_i hcapacity
          cases h
          cases hkey
          exact hasRoom_of_requireMatchCapacity hcapacity
  | human userId =>
      cases h
      cases hagent

/-- An agent joins a lobby or an active match with room for it only. -/
theorem hasRoom_of_joined {db db' : Database} {matchId : String} {actor : LobbyActor} {joined : JoinedMatch}
    (h : joinDbMatch hashApiKey variant db matchId actor = .ok (db', joined)) :
    db' = db ∨ ∃ matchRow identity joinIndex, db.matchRows.get? matchId = some matchRow ∧
      addPlayer db (joinedPlayerRow matchRow.id joinIndex identity) = .ok db' ∧
      (matchRow.status = .lobby ∨ matchRow.status = .active → identity.isAgent = true →
        ∀ apiKeyId, identity.apiKeyId = some apiKeyId → HasRoom db apiKeyId) := by
  unfold joinDbMatch at h
  split at h
  · cases h
  · cases h
  · rename_i matchRow hget
    have hrow := (sessionGet_eq_ok hget).symm
    split at h
    · cases h
    · cases actor with
      | agent keyHash =>
          dsimp only at h
          unfold joinMatchAsAgent at h
          split at h
          · cases h
          · rename_i agent _
            split at h
            · cases h
              exact Or.inl rfl
            · dsimp only at h
              split at h
              · cases h
              · rename_i hcapacity
                obtain ⟨joinIndex, hadd, -⟩ := joinAs_eq_ok h
                refine Or.inr ⟨matchRow, agentIdentity agent, joinIndex, hrow, hadd, fun hopen _ apiKeyId hkey => ?_⟩
                rw [if_pos hopen] at hcapacity
                cases hkey
                exact hasRoom_of_requireMatchCapacity hcapacity
      | human userId =>
          dsimp only at h
          unfold joinMatchAsHuman at h
          split at h
          · cases h
            exact Or.inl rfl
          · obtain ⟨joinIndex, hadd, -⟩ := joinAs_eq_ok h
            refine Or.inr ⟨matchRow, humanIdentity db userId, joinIndex, hrow, hadd, fun _ hagent => ?_⟩
            cases hagent

/-- A match that is not open before a step's rows are moved is not open after it. -/
theorem takesUp_of_rows {db db' : Database}
    (hrows : ∀ matchId matchRow', db'.matchRows.get? matchId = some matchRow' →
      matchRow'.status = .lobby ∨ matchRow'.status = .active →
        ∃ matchRow, db.matchRows.get? matchId = some matchRow ∧ (matchRow.status = .lobby ∨ matchRow.status = .active))
    (hplayers : ∀ player' ∈ db'.players.rows, ∃ player ∈ db.players.rows, player.enrolment = player'.enrolment)
    (hkeys : ∀ apiKey' ∈ db'.apiKeys.rows, ∃ apiKey ∈ db.apiKeys.rows,
      apiKey.id = apiKey'.id ∧ apiKey.userId = apiKey'.userId)
    (hgrants : db'.agentEntitlementGrants = db.agentEntitlementGrants) : TakesUp db db' := by
  refine ⟨fun apiKeyId => Or.inl fun matchId hmem => ?_, fun apiKey' hrow => Or.inl (hkeys apiKey' hrow), hgrants⟩
  obtain ⟨matchRow', hrow', hopen', player', hplayer', hmatch, hkey, hagent⟩ := mem_occupiedMatches.1 hmem
  obtain ⟨matchRow, hrow, hopen⟩ := hrows matchId matchRow' hrow' hopen'
  obtain ⟨player, hplayer, hsame⟩ := hplayers player' hplayer'
  exact mem_occupiedMatches.2 ⟨matchRow, hrow, hopen, player, hplayer, (matchId_of_enrolment hsame).trans hmatch,
    (apiKeyId_of_enrolment hsame).trans hkey, (isAgent_of_enrolment hsame).trans hagent⟩

/-- The owners of the keys, which settling leaves alone. -/
def keyOwners (db : Database) : List (String × String) := db.apiKeys.rows.map fun apiKey => (apiKey.id, apiKey.userId)

theorem exists_owned {db db' : Database} (h : keyOwners db' = keyOwners db) :
    ∀ apiKey' ∈ db'.apiKeys.rows, ∃ apiKey ∈ db.apiKeys.rows, apiKey.id = apiKey'.id ∧ apiKey.userId = apiKey'.userId := by
  intro apiKey' hrow'
  have hmem : (apiKey'.id, apiKey'.userId) ∈ keyOwners db := h ▸ List.mem_map_of_mem hrow'
  obtain ⟨apiKey, hrow, heq⟩ := List.mem_map.1 hmem
  exact ⟨apiKey, hrow, congrArg Prod.fst heq, congrArg Prod.snd heq⟩

theorem keyOwners_setKeyElo (db : Database) (id : String) (elo : Int) : keyOwners (db.setKeyElo id elo) = keyOwners db :=
  Table.map_update db.apiKeys id (f := fun row => { row with eloRating := elo }) (fun _ => rfl) fun _ => rfl

theorem keyOwners_deactivateKey (db : Database) (id : String) : keyOwners (db.deactivateKey id) = keyOwners db :=
  Table.map_update db.apiKeys id (f := fun row => { row with isActive := false }) (fun _ => rfl) fun _ => rfl

theorem owners_persist {newId : Nat → String} {settledAt : Nat} {db db' : Database} {advancedTick : AdvancedMatchTick}
    (h : persistAdvancedMatchTick variant newId settledAt db advancedTick = .ok db') :
    keyOwners db' = keyOwners db ∧ db'.agentEntitlementGrants = db.agentEntitlementGrants := by
  obtain ⟨row, synced, ids, winnerAlliance, settled, -, hsync, -, hsettle, rfl⟩ := persistAdvancedMatchTick_eq_ok h
  obtain ⟨alliances, players, rfl, -⟩ := syncTerminalAllianceRows_eq_ok hsync
  rcases settleCompletedMatchIfNeeded_eq_ok hsettle with ⟨rfl, -⟩ | ⟨-, hsettled⟩
  · exact ⟨rfl, rfl⟩
  · obtain ⟨matchSettlements, outcome, -, -, -, hplayers⟩ := settleMatch_eq_ok hsettled
    have hkept : keyOwners settled = keyOwners db ∧ settled.agentEntitlementGrants = db.agentEntitlementGrants := by
      refine Run.invariant_foldlM (I := fun reached : Database =>
        keyOwners reached = keyOwners db ∧ reached.agentEntitlementGrants = db.agentEntitlementGrants) ?_ hplayers ⟨rfl, rfl⟩
      rintro reached player reached' hstep ⟨howners, hgrants⟩
      obtain ⟨playerMatchSettlements, -, rfl⟩ := settlePlayer_eq_ok hstep
      unfold recordKeyElo
      split
      · exact ⟨(keyOwners_setKeyElo { reached with playerMatchSettlements } _ _).trans howners, hgrants⟩
      · exact ⟨howners, hgrants⟩
    exact hkept

theorem takesUp_serverStep (hseats : server.SeatsAll hashApiKey) (event : ServerEvent) :
    TakesUp server.database (serverStep hashApiKey variant server event).database := by
  have heffect : ServerEffect hashApiKey variant server event (serverStep hashApiKey variant server event) :=
    serverStep_effect server event
  generalize serverStep hashApiKey variant server event = next at heffect
  cases heffect with
  | keyCreated hfresh hadd =>
      obtain ⟨hnew, hrows, hdatabase⟩ := Database.addApiKey_eq_ok hadd
      rename_i userId tokens keyId rawKey createdAt database
      refine .of_tables (by rw [hdatabase]) (by rw [hdatabase]) ?_ (by rw [hdatabase])
      intro apiKey' hrow'
      rcases List.mem_append.1 (hrows ▸ hrow') with hold | hadded
      · exact Or.inl ⟨apiKey', hold, rfl, rfl⟩
      · obtain rfl := List.mem_singleton.1 hadded
        refine Or.inr (List.eq_nil_iff_forall_not_mem.2 fun matchId hmem => ?_)
        obtain ⟨matchRow, -, -, player, hplayer, -, hkey, hagent⟩ := mem_occupiedMatches.1 hmem
        have hplayer : player ∈ database.players.rows := hplayer
        rw [hdatabase] at hplayer
        obtain ⟨apiKey, hrow, hid⟩ := hseats.keyed player hplayer hagent
        rw [hkey] at hid
        exact hnew (Option.some.inj hid ▸ List.mem_map_of_mem hrow)
  | keyRevoked hfound =>
      exact .of_tables rfl rfl
        (fun apiKey hrow => Or.inl (exists_owned (keyOwners_deactivateKey server.database _) apiKey hrow)) rfl
  | lobbyCreated hcreate =>
      obtain ⟨state, creator, agent, matchRows, -, hcreator, hadd, hplayer, -⟩ := createMatchLobby_eq_ok hcreate
      obtain ⟨hfresh, hrows⟩ := sessionAdd_eq_ok hadd
      rename_i credentials request id actor database created
      have hget := Table.get?_append hfresh hrows
      refine takesUp_addPlayer hplayer ?_ ?_ ?_
      · intro matchId hother
        rw [hget]
        exact if_neg hother
      · intro matchRow _
        refine Or.inr fun other hmem hsame => hfresh ?_
        have hhome := hseats.homed other hmem
        rw [show other.matchId = id from hsame] at hhome
        exact hhome
      · intro matchRow _ _ hagent apiKeyId hkey
        exact hasRoom_of_creator hcreator hagent hkey
  | joined hjoin =>
      rcases hasRoom_of_joined hjoin with rfl | ⟨matchRow, identity, joinIndex, hrow, hadd, hroom⟩
      · exact .refl _
      · obtain rfl := Table.key_of_get? hrow
        have hadd : addPlayer { server.database with matchRows := server.database.matchRows }
            (joinedPlayerRow matchRow.id joinIndex identity) = .ok _ := hadd
        refine takesUp_addPlayer hadd (fun _ _ => rfl) (fun _ => Or.inl) ?_
        intro found hfound hopen hagent apiKeyId hkey
        cases hrow.symm.trans hfound
        exact hroom hopen hagent apiKeyId hkey
  | started hstart =>
      obtain ⟨matchRow, hrow, hlobby, -, rfl, -⟩ := startMatchLobby_eq_ok hstart
      obtain rfl := Table.key_of_get? hrow
      refine takesUp_of_rows ?_ (fun player hplayer => ⟨player, hplayer, rfl⟩) (fun apiKey hkey => ⟨apiKey, hkey, rfl, rfl⟩) rfl
      intro matchId matchRow' hrow' hopen
      have hrow' := (get?_activateMatch server.database matchRow matchId).symm.trans hrow'
      split at hrow'
      · rename_i hsame
        subst hsame
        exact ⟨matchRow, hrow, Or.inl hlobby⟩
      · exact ⟨matchRow', hrow', hopen⟩
  | ticked hrecord hactive htick hpersist =>
      obtain ⟨stored, winnerAlliance, hstored, hrows, -⟩ := persistAdvancedMatchTick_row hpersist
      obtain ⟨found, hpersisted⟩ := persistAdvancedMatchTick_persisted hpersist
      obtain ⟨howners, hgrants⟩ := owners_persist hpersist
      refine takesUp_of_rows ?_ ?_ (exists_owned howners) hgrants
      · intro matchId matchRow' hrow' hopen
        have hrow' := (hrows matchId).symm.trans hrow'
        split at hrow'
        · rename_i hsame
          cases hrow'
          refine ⟨stored, hsame ▸ hstored, ?_⟩
          change (tickedMatchRow _ stored).status = .lobby ∨ (tickedMatchRow _ stored).status = .active at hopen
          unfold tickedMatchRow at hopen
          dsimp only at hopen
          split at hopen
          · rcases hopen with hopen | hopen
            · cases hopen
            · cases hopen
          · exact hopen
        · exact ⟨matchRow', hrow', hopen⟩
      · intro player' hplayer'
        obtain ⟨player, hplayer, hsame⟩ := exists_enrolled hpersisted.enrolments_kept.symm hplayer'
        exact ⟨player, hplayer, hsame⟩
  | _ => exact .refl _

/-- No key ever plays in more lobbies and active matches than its owner is entitled to. -/
theorem occupancy_within_entitlement (hnone : server.HoldsNoMatch) (events : List ServerEvent) :
    ∀ reached ∈ Run.states (serverStep hashApiKey variant) server events, ∀ apiKey ∈ reached.database.apiKeys.rows,
      countActiveMatchOccupancyForApiKey reached.database apiKey.id ≤
        (resolveEffectiveAgentEntitlement reached.database apiKey.userId).concurrentMatchAllowance := by
  have hempty : WithinEntitlements server.database := by
    intro apiKey _
    rw [← length_occupiedMatches, occupiedMatches, hnone.matchRows]
    exact Nat.zero_le _
  have hrun : ∀ reached ∈ Run.states (serverStep hashApiKey variant) server events, WithinEntitlements reached.database := by
    refine Run.invariant_of_steps (I := fun state : Server => WithinEntitlements state.database)
      (C := fun state _ => state.SeatsAll hashApiKey) ?_ hempty ?_
    · exact fun state event hseats hwithin => hwithin.of_takesUp (takesUp_serverStep hseats event)
    · exact fun taken htaken => seatsAll_run hnone events taken.1 (Run.fst_mem_states htaken)
  exact hrun

end Steps

/-- Two lobbies of a key whose owner may have two at a time; the third is refused. -/
def deployedLobbies : List ServerEvent :=
  .createApiKey deploymentOwner [deploymentToken] deploymentKeyId 1 ::
    [deploymentMatchId, deploymentGuest, deploymentOwner].map fun matchId =>
      .createLobby ⟨some (rawApiKey deploymentToken), none⟩ (deploymentRequest 0) matchId

def deployedTenant : Server := deployedLobbies.foldl (serverStep deploymentHash .sqlite) deployment

theorem deployedTenant_reached :
    deployedTenant ∈ Run.states (serverStep deploymentHash .sqlite) deployment deployedLobbies :=
  Run.foldl_mem_states deployment deployedLobbies

theorem occupancy_within_entitlement_deployed :
    ∃ apiKey, deployedTenant.database.apiKeys.get? deploymentKeyId = some apiKey ∧
      countActiveMatchOccupancyForApiKey deployedTenant.database deploymentKeyId = 2 ∧
      countActiveMatchOccupancyForApiKey deployedTenant.database apiKey.id ≤
        (resolveEffectiveAgentEntitlement deployedTenant.database apiKey.userId).concurrentMatchAllowance := by
  obtain ⟨apiKey, hrow⟩ := Option.isSome_iff_exists.1
    (show (deployedTenant.database.apiKeys.get? deploymentKeyId).isSome = true by decide +kernel)
  have htwo : countActiveMatchOccupancyForApiKey deployedTenant.database deploymentKeyId = 2 := by decide +kernel
  exact ⟨apiKey, hrow, htwo, occupancy_within_entitlement deployment_holdsNoMatch deployedLobbies deployedTenant
    deployedTenant_reached apiKey (Table.mem_rows_of_get? hrow)⟩

end IronCouncil
