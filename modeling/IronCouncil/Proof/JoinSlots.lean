import IronCouncil.Base.KeyOrder
import IronCouncil.Api.Server
import IronCouncil.Proof.PlayerRows
import IronCouncil.Proof.ServerRuns

/-!
# The slots of joined players

A join answers with the first free player in the order of the ids as text, and its row is numbered by how many have joined. With up to nine players the two are the same player, and from the tenth player on they are not.
-/

namespace IronCouncil

/-- The players of a state are numbered from one. -/
def NumberedPlayers (state : MatchState) (n : Nat) : Prop :=
  ∀ playerId, playerId ∈ state.players.keys ↔ ∃ k, 1 ≤ k ∧ k ≤ n ∧ playerId = canonicalPlayerId k

/-- Whom a record of a match knows as joined. -/
inductive Occupant
  | agent (agentId : String)
  | human (userId : String)
deriving DecidableEq

def MatchRecord.playerOf (record : MatchRecord) : Occupant → Option String
  | .agent agentId => record.joinedAgents.get? agentId
  | .human userId => record.joinedHumans.get? userId

def LobbyActor.occupant (actor : LobbyActor) (response : MatchJoinResponse) : Occupant :=
  match actor with
  | .agent _ => .agent response.agentId
  | .human userId => .human userId

/-! ### Who speaks -/

/-- The occupant as which an actor joins. -/
def Speaks (hashApiKey : String → String) (db : Database) (occupant : Occupant) : LobbyActor → Prop
  | .agent keyHash => ∃ apiKey ∈ db.apiKeys.rows, apiKey.keyHash = keyHash ∧
      occupant = .agent (agentIdOfKey hashApiKey apiKey)
  | .human userId => occupant = .human userId

/-- Distinct actors are distinct occupants. -/
theorem Speaks.eq_iff {hashApiKey : String → String} {db : Database} {occupant occupant' : Occupant}
    {actor actor' : LobbyActor} (h : Speaks hashApiKey db occupant actor) (h' : Speaks hashApiKey db occupant' actor') :
    actor = actor' ↔ occupant = occupant' := by
  cases actor with
  | human userId =>
      cases h
      cases actor' with
      | human userId' =>
          cases h'
          simp only [LobbyActor.human.injEq, Occupant.human.injEq]
      | agent keyHash =>
          obtain ⟨apiKey, -, -, rfl⟩ := h'
          simp only [reduceCtorEq]
  | agent keyHash =>
      obtain ⟨apiKey, hrow, rfl, rfl⟩ := h
      cases actor' with
      | human userId =>
          cases h'
          simp only [reduceCtorEq]
      | agent keyHash' =>
          obtain ⟨apiKey', hrow', rfl, rfl⟩ := h'
          simp only [LobbyActor.agent.injEq, Occupant.agent.injEq]
          constructor
          · intro hhash
            rw [List.inj_on_of_nodup_map db.keyHashes_nodup hrow hrow' hhash]
          · intro hagent
            rw [agentIdOfKey_injOn hashApiKey db hrow hrow' hagent]

theorem context_agentId {hashApiKey : String → String} {db : Database} {keyHash : String}
    {agent : ResolvedAuthenticatedDbAgent}
    (h : resolveAuthenticatedAgentFromDbKeyHash hashApiKey db keyHash = some agent) :
    ∃ apiKey ∈ db.apiKeys.rows, apiKey.keyHash = keyHash ∧ apiKey.id = agent.apiKeyId ∧
      agent.context.agentId = agentIdOfKey hashApiKey apiKey := by
  unfold resolveAuthenticatedAgentFromDbKeyHash at h
  split at h
  · cases h
  · rename_i apiKey hfound
    obtain ⟨hrow, hhash⟩ := Database.keyOfHash?_eq_some.1 hfound
    dsimp only at h
    split at h
    · cases h
    · split at h
      · cases h
      · cases h
        refine ⟨apiKey, hrow, hhash, rfl, ?_⟩
        unfold agentIdOfKey
        cases hseeded : (buildSeededProfilesByKeyHash hashApiKey).get? apiKey.keyHash <;> rfl

/-! ### The rows of a match -/

section Seats

variable (hashApiKey : String → String) (matchRow : MatchRow)

def occupantOfRow (db : Database) (player : PlayerRow) : Occupant :=
  if player.isAgent then .agent (agentIdOfPlayer hashApiKey db player) else .human player.userId

/-- The rows of the match are numbered from one, each for someone else. -/
structure SeatedRows (db : Database) (k : Nat) : Prop where
  stored : db.matchRows.get? matchRow.id = some matchRow
  rows : ∀ persistedId, persistedId ∈ (db.playersOfMatch matchRow.id).map (·.id) ↔
    ∃ i, 1 ≤ i ∧ i ≤ k ∧ persistedId = buildMatchScopedPlayerId matchRow.id i
  occupants : ((db.playersOfMatch matchRow.id).map (occupantOfRow hashApiKey db)).Nodup

/-- The occupant has the row that bears the number of the player. -/
def Occupies (db : Database) (occupant : Occupant) (playerId : String) : Prop :=
  ∃ player ∈ db.playersOfMatch matchRow.id, occupantOfRow hashApiKey db player = occupant ∧
    ∃ i, player.id = buildMatchScopedPlayerId matchRow.id i ∧ playerId = canonicalPlayerId i

theorem scoped_injective (matchId : String) : Function.Injective (buildMatchScopedPlayerId matchId) := by
  intro m n h
  have hfirst := canonicalPlayerId_of_scoped matchId m [canonicalPlayerId m]
  rw [h, canonicalPlayerId_of_scoped, if_pos List.mem_cons_self] at hfirst
  split at hfirst
  · exact (numberedName_injective _ (Option.some.inj hfirst)).symm
  · cases hfirst

theorem playersOfMatch_ids_nodup (db : Database) (matchId : String) :
    ((db.playersOfMatch matchId).map (·.id)).Nodup := by
  have hrows : ((db.players.rows.filter fun player => player.matchId = matchId).map (·.id)).Nodup :=
    db.players.nodup.sublist (List.filter_sublist.map _)
  exact ((List.perm_insertionSort _ _).map PlayerRow.id).nodup_iff.2 hrows

section Facts

variable {hashApiKey matchRow} {db : Database} {k n : Nat} (h : SeatedRows hashApiKey matchRow db k)

include h

theorem SeatedRows.scopedRows : ScopedRows matchRow.id (db.playersOfMatch matchRow.id) where
  numbered := by
    intro player hplayer
    obtain ⟨i, -, -, hid⟩ := (h.rows player.id).1 (List.mem_map_of_mem hplayer)
    exact ⟨i, hid⟩
  distinct := playersOfMatch_ids_nodup db matchRow.id

theorem SeatedRows.ids_perm : ((db.playersOfMatch matchRow.id).map (·.id)).Perm
    ((List.range' 1 k).map (buildMatchScopedPlayerId matchRow.id)) := by
  apply (List.perm_ext_iff_of_nodup (playersOfMatch_ids_nodup db matchRow.id) _).2
  · intro persistedId
    rw [h.rows, List.mem_map]
    simp only [List.mem_range'_1]
    constructor
    · intro hseat
      obtain ⟨i, hfirst, hlast, rfl⟩ := hseat
      exact ⟨i, ⟨hfirst, by omega⟩, rfl⟩
    · intro hseat
      obtain ⟨i, ⟨hfirst, hlast⟩, rfl⟩ := hseat
      exact ⟨i, hfirst, by omega, rfl⟩
  · exact (List.nodup_range' ..).map (scoped_injective matchRow.id)

theorem SeatedRows.length_rows : (db.playersOfMatch matchRow.id).length = k := by
  have hlength := h.ids_perm.length_eq
  rwa [List.length_map, List.length_map, List.length_range'] at hlength

variable (hplayers : NumberedPlayers matchRow.state n) (hk : k ≤ n)

include hplayers hk

theorem SeatedRows.get?_mapping {player : PlayerRow} (hplayer : player ∈ db.playersOfMatch matchRow.id) {i : Nat}
    (hid : player.id = buildMatchScopedPlayerId matchRow.id i) :
    (persistedPlayerMapping matchRow.state (db.playersOfMatch matchRow.id)).get? player.id = some (canonicalPlayerId i) := by
  obtain ⟨j, hfirst, hlast, hj⟩ := (h.rows player.id).1 (List.mem_map_of_mem hplayer)
  obtain rfl : j = i := scoped_injective _ (hj.symm.trans hid)
  apply (get?_buildPersistedPlayerMapping h.scopedRows _ _).2
  refine ⟨player, hplayer, rfl, ?_⟩
  rw [hid, canonicalPlayerId_of_scoped, if_pos]
  apply (List.mem_insertionSort _).2
  exact (hplayers _).2 ⟨j, hfirst, by omega, rfl⟩

/-- Every row is mapped. -/
theorem SeatedRows.mappedPlayers_eq : mappedPlayers matchRow.state (db.playersOfMatch matchRow.id) =
    (db.playersOfMatch matchRow.id).map fun player => (player,
      ((persistedPlayerMapping matchRow.state (db.playersOfMatch matchRow.id)).get? player.id).getD "") := by
  unfold mappedPlayers
  rw [← List.filterMap_eq_map]
  apply List.filterMap_congr
  intro player hplayer
  obtain ⟨i, -, -, hid⟩ := (h.rows player.id).1 (List.mem_map_of_mem hplayer)
  have hmapped := h.get?_mapping hplayers hk hplayer hid
  simp [hmapped]

theorem SeatedRows.joinedAgents_eq : loadJoinedAgents hashApiKey db matchRow.state (db.playersOfMatch matchRow.id) =
    OrdDict.ofList (((db.playersOfMatch matchRow.id).filter (·.isAgent)).map fun player =>
      (agentIdOfPlayer hashApiKey db player,
        ((persistedPlayerMapping matchRow.state (db.playersOfMatch matchRow.id)).get? player.id).getD "")) := by
  unfold loadJoinedAgents
  rw [h.mappedPlayers_eq hplayers hk, List.filterMap_map, ← List.filterMap_eq_map, List.filterMap_filter]
  rfl

theorem SeatedRows.joinedHumans_eq : loadJoinedHumans matchRow.state (db.playersOfMatch matchRow.id) =
    OrdDict.ofList (((db.playersOfMatch matchRow.id).filter (!·.isAgent)).map fun player =>
      (player.userId,
        ((persistedPlayerMapping matchRow.state (db.playersOfMatch matchRow.id)).get? player.id).getD "")) := by
  unfold loadJoinedHumans
  rw [h.mappedPlayers_eq hplayers hk, List.filterMap_map, ← List.filterMap_eq_map, List.filterMap_filter]
  congr 1
  apply List.filterMap_congr
  intro player _
  cases hkind : player.isAgent <;> simp [hkind]

omit hplayers hk in
theorem SeatedRows.agents_nodup :
    (((db.playersOfMatch matchRow.id).filter (·.isAgent)).map (agentIdOfPlayer hashApiKey db)).Nodup := by
  have hagents := h.occupants.sublist ((List.filter_sublist (p := (·.isAgent))).map (occupantOfRow hashApiKey db))
  apply List.Nodup.of_map Occupant.agent
  rw [List.map_map]
  convert hagents using 1
  apply List.map_congr_left
  intro player hplayer
  have hkind := (List.mem_filter.1 hplayer).2
  simp [occupantOfRow, hkind]

omit hplayers hk in
theorem SeatedRows.humans_nodup : (((db.playersOfMatch matchRow.id).filter (!·.isAgent)).map (·.userId)).Nodup := by
  have hhumans := h.occupants.sublist ((List.filter_sublist (p := (!·.isAgent))).map (occupantOfRow hashApiKey db))
  apply List.Nodup.of_map Occupant.human
  rw [List.map_map]
  convert hhumans using 1
  apply List.map_congr_left
  intro player hplayer
  have hkind := (List.mem_filter.1 hplayer).2
  simp only [Bool.not_eq_true'] at hkind
  simp [occupantOfRow, hkind]

/-- A record of the match knows the occupant of each row by the number of the row. -/
theorem SeatedRows.playerOf_eq_some {record : MatchRecord}
    (hagents : record.joinedAgents = loadJoinedAgents hashApiKey db matchRow.state (db.playersOfMatch matchRow.id))
    (hhumans : record.joinedHumans = loadJoinedHumans matchRow.state (db.playersOfMatch matchRow.id))
    {occupant : Occupant} {playerId : String} :
    record.playerOf occupant = some playerId ↔ Occupies hashApiKey matchRow db occupant playerId := by
  have hname : ∀ player ∈ db.playersOfMatch matchRow.id,
      ((persistedPlayerMapping matchRow.state (db.playersOfMatch matchRow.id)).get? player.id).getD "" = playerId ↔
        ∃ i, player.id = buildMatchScopedPlayerId matchRow.id i ∧ playerId = canonicalPlayerId i := by
    intro player hplayer
    obtain ⟨i, -, -, hid⟩ := (h.rows player.id).1 (List.mem_map_of_mem hplayer)
    rw [h.get?_mapping hplayers hk hplayer hid, Option.getD_some]
    constructor
    · exact fun hsame => ⟨i, hid, hsame.symm⟩
    · intro hseat
      obtain ⟨j, hj, rfl⟩ := hseat
      rw [scoped_injective _ (hid.symm.trans hj)]
  unfold MatchRecord.playerOf
  cases occupant with
  | agent agentId =>
      have hnodup := h.agents_nodup
      dsimp only
      rw [hagents, h.joinedAgents_eq hplayers hk, OrdDict.get?_ofList_of_nodup (by rwa [List.map_map]), List.mem_map]
      constructor
      · intro hrow
        obtain ⟨player, hplayer, heq⟩ := hrow
        obtain ⟨hplayer, hkind⟩ := List.mem_filter.1 hplayer
        obtain ⟨hagent, hcanonical⟩ := Prod.mk.inj heq
        refine ⟨player, hplayer, ?_, (hname player hplayer).1 hcanonical⟩
        simp [occupantOfRow, hkind, hagent]
      · intro hrow
        obtain ⟨player, hplayer, hoccupant, hseat⟩ := hrow
        unfold occupantOfRow at hoccupant
        split at hoccupant
        · rename_i hkind
          refine ⟨player, List.mem_filter.2 ⟨hplayer, hkind⟩, ?_⟩
          exact Prod.ext (Occupant.agent.inj hoccupant) ((hname player hplayer).2 hseat)
        · cases hoccupant
  | human userId =>
      have hnodup := h.humans_nodup
      dsimp only
      rw [hhumans, h.joinedHumans_eq hplayers hk, OrdDict.get?_ofList_of_nodup (by rwa [List.map_map]), List.mem_map]
      constructor
      · intro hrow
        obtain ⟨player, hplayer, heq⟩ := hrow
        obtain ⟨hplayer, hkind⟩ := List.mem_filter.1 hplayer
        obtain ⟨huser, hcanonical⟩ := Prod.mk.inj heq
        refine ⟨player, hplayer, ?_, (hname player hplayer).1 hcanonical⟩
        simp only [Bool.not_eq_true'] at hkind
        simp [occupantOfRow, hkind, huser]
      · intro hrow
        obtain ⟨player, hplayer, hoccupant, hseat⟩ := hrow
        unfold occupantOfRow at hoccupant
        split at hoccupant
        · cases hoccupant
        · rename_i hkind
          refine ⟨player, List.mem_filter.2 ⟨hplayer, by simpa using hkind⟩, ?_⟩
          exact Prod.ext (Occupant.human.inj hoccupant) ((hname player hplayer).2 hseat)

theorem SeatedRows.playerOf_composed {record : MatchRecord} {playerRows : List PlayerRow} {alliances : List MatchAlliance}
    (hrecord : record = composeLoadedMatchRecord hashApiKey db matchRow playerRows alliances) {occupant : Occupant}
    {playerId : String} : record.playerOf occupant = some playerId ↔ Occupies hashApiKey matchRow db occupant playerId := by
  subst hrecord
  exact h.playerOf_eq_some hplayers hk rfl rfl

/-- As many have joined as there are rows. -/
theorem SeatedRows.joined_count :
    (loadJoinedAgents hashApiKey db matchRow.state (db.playersOfMatch matchRow.id)).keys.length +
      (loadJoinedHumans matchRow.state (db.playersOfMatch matchRow.id)).keys.length = k := by
  have hagents := h.agents_nodup
  have hhumans := h.humans_nodup
  rw [h.joinedAgents_eq hplayers hk, h.joinedHumans_eq hplayers hk, OrdDict.length_keys_ofList (by rwa [List.map_map]),
    OrdDict.length_keys_ofList (by rwa [List.map_map]), List.length_map, List.length_map, ← h.length_rows]
  exact (List.length_eq_length_filter_add _).symm

omit hplayers hk in
theorem SeatedRows.occupied_iff {playerId : String} :
    (∃ occupant, Occupies hashApiKey matchRow db occupant playerId) ↔
      ∃ i, 1 ≤ i ∧ i ≤ k ∧ playerId = canonicalPlayerId i := by
  constructor
  · intro hoccupied
    obtain ⟨occupant, player, hplayer, -, i, hid, hcanonical⟩ := hoccupied
    obtain ⟨j, hfirst, hlast, hj⟩ := (h.rows player.id).1 (List.mem_map_of_mem hplayer)
    obtain rfl : j = i := scoped_injective _ (hj.symm.trans hid)
    exact ⟨j, hfirst, hlast, hcanonical⟩
  · intro hseat
    obtain ⟨i, hfirst, hlast, hcanonical⟩ := hseat
    obtain ⟨player, hplayer, hid⟩ := List.mem_map.1 ((h.rows _).2 ⟨i, hfirst, hlast, rfl⟩)
    exact ⟨_, player, hplayer, rfl, i, hid, hcanonical⟩

/-- The free players are those with a number that no row has. -/
theorem SeatedRows.mem_joinable {playerId : String} : playerId ∈ deriveJoinablePlayerIds matchRow.status matchRow.state
    (loadJoinedAgents hashApiKey db matchRow.state (db.playersOfMatch matchRow.id))
    (loadJoinedHumans matchRow.state (db.playersOfMatch matchRow.id)) ↔
      (matchRow.status = .lobby ∨ matchRow.status = .paused) ∧ ∃ i, k < i ∧ i ≤ n ∧ playerId = canonicalPlayerId i := by
  let record := composeLoadedMatchRecord hashApiKey db matchRow [] []
  have hplayerOf : ∀ occupant, record.playerOf occupant = some playerId ↔
      Occupies hashApiKey matchRow db occupant playerId :=
    fun occupant => h.playerOf_eq_some hplayers hk rfl rfl
  have hjoined : (playerId ∉ record.joinedAgents.values ∧ playerId ∉ record.joinedHumans.values) ↔
      ¬ ∃ occupant, Occupies hashApiKey matchRow db occupant playerId := by
    simp only [OrdDict.mem_values, ← hplayerOf]
    constructor
    · intro hfree hoccupied
      obtain ⟨occupant, hoccupant⟩ := hoccupied
      cases occupant with
      | agent agentId => exact hfree.1 ⟨agentId, hoccupant⟩
      | human userId => exact hfree.2 ⟨userId, hoccupant⟩
    · intro hfree
      exact ⟨fun hagent => hfree (hagent.imp' Occupant.agent fun _ => id),
        fun hhuman => hfree (hhuman.imp' Occupant.human fun _ => id)⟩
  unfold deriveJoinablePlayerIds
  split
  · rename_i hstatus
    rw [List.mem_insertionSort, List.mem_filter, decide_eq_true_eq]
    refine (and_congr (hplayers playerId) hjoined).trans ?_
    rw [h.occupied_iff]
    constructor
    · intro hfree
      obtain ⟨⟨i, hfirst, hlast, rfl⟩, hfree⟩ := hfree
      refine ⟨hstatus, i, ?_, hlast, rfl⟩
      by_contra hle
      exact hfree ⟨i, hfirst, by omega, rfl⟩
    · intro hfree
      obtain ⟨-, i, hnext, hlast, rfl⟩ := hfree
      refine ⟨⟨i, by omega, hlast, rfl⟩, ?_⟩
      intro htaken
      obtain ⟨j, -, hj, hsame⟩ := htaken
      have hij : i = j := numberedName_injective _ hsame
      omega
  · rename_i hstatus
    exact ⟨fun hmem => absurd hmem List.not_mem_nil, fun hfree => absurd hfree.1 hstatus⟩

end Facts

end Seats

/-! ### One join -/

/-- A join leaves the keys and the matches, and adds rows of players. -/
structure Extends (db db' : Database) : Prop where
  apiKeys : db'.apiKeys = db.apiKeys
  matchRows : db'.matchRows = db.matchRows
  players : db.players.rows ⊆ db'.players.rows

theorem Extends.refl (db : Database) : Extends db db := ⟨rfl, rfl, List.Subset.refl _⟩

theorem Extends.trans {db db' db'' : Database} (h : Extends db db') (h' : Extends db' db'') : Extends db db'' where
  apiKeys := h'.apiKeys.trans h.apiKeys
  matchRows := h'.matchRows.trans h.matchRows
  players := List.Subset.trans h.players h'.players

theorem occupantOfRow_congr (hashApiKey : String → String) {db db' : Database} (h : db'.apiKeys = db.apiKeys)
    (player : PlayerRow) : occupantOfRow hashApiKey db' player = occupantOfRow hashApiKey db player := by
  simp only [occupantOfRow, agentIdOfPlayer, apiKeyOfPlayer, h]

theorem Occupies.grow {hashApiKey : String → String} {matchRow : MatchRow} {db db' : Database} {occupant : Occupant}
    {playerId : String} (h : Occupies hashApiKey matchRow db occupant playerId) (hgrows : Extends db db') :
    Occupies hashApiKey matchRow db' occupant playerId := by
  obtain ⟨player, hplayer, hoccupant, hseat⟩ := h
  obtain ⟨hrow, hmatch⟩ := Database.mem_playersOfMatch.1 hplayer
  refine ⟨player, Database.mem_playersOfMatch.2 ⟨hgrows.players hrow, hmatch⟩, ?_, hseat⟩
  rw [occupantOfRow_congr hashApiKey hgrows.apiKeys, hoccupant]

theorem Speaks.grow {hashApiKey : String → String} {db db' : Database} {occupant : Occupant} {actor : LobbyActor}
    (h : Speaks hashApiKey db occupant actor) (hgrows : Extends db db') : Speaks hashApiKey db' occupant actor := by
  unfold Speaks
  rw [hgrows.apiKeys]
  exact h

/-- A new actor is let in: the match is found and loads, it is open, and nobody has its next row. -/
structure Admits (variant : StorageVariant) (matchRow : MatchRow) (db : Database) (k : Nat) : Prop where
  found : ¬ (variant = .postgres ∧ isUuidText matchRow.id = false)
  loads : matchRow.state.FieldsValid
  opened : matchRow.status = .lobby ∨ matchRow.status = .paused
  free : buildMatchScopedPlayerId matchRow.id (k + 1) ∉ db.players.keys

theorem fieldsValid_of_loadRecord {hashApiKey : String → String} {db : Database} {matchRow : MatchRow}
    {record : MatchRecord} (h : loadRecord hashApiKey db matchRow = .ok record) : matchRow.state.FieldsValid := by
  unfold loadRecord loadMatchRecordFromSession at h
  by_contra hinvalid
  rw [if_neg hinvalid] at h
  cases h

theorem loadRecord_of_fieldsValid (hashApiKey : String → String) (db : Database) {matchRow : MatchRow}
    (h : matchRow.state.FieldsValid) : loadRecord hashApiKey db matchRow =
      .ok (composeLoadedMatchRecord hashApiKey db matchRow (db.playersOfMatch matchRow.id) []) := by
  unfold loadRecord loadMatchRecordFromSession
  rw [if_pos h]

section Added

variable {hashApiKey : String → String} {matchRow : MatchRow} {db db' : Database} {k : Nat} {identity : PlayerIdentity}
  (hadd : addPlayer db (joinedPlayerRow matchRow.id (k + 1) identity) = .ok db')

include hadd

theorem extends_addPlayer : Extends db db' := by
  obtain ⟨players, hsession, rfl⟩ := addPlayer_eq_ok hadd
  obtain ⟨-, hrows⟩ := sessionAdd_eq_ok hsession
  refine ⟨rfl, rfl, ?_⟩
  dsimp only
  rw [hrows]
  exact List.subset_append_left _ _

theorem playersOfMatch_addPlayer : (db'.playersOfMatch matchRow.id).Perm
    (db.playersOfMatch matchRow.id ++ [joinedPlayerRow matchRow.id (k + 1) identity]) := by
  obtain ⟨players, hsession, rfl⟩ := addPlayer_eq_ok hadd
  obtain ⟨-, hrows⟩ := sessionAdd_eq_ok hsession
  have hrow : [joinedPlayerRow matchRow.id (k + 1) identity].filter (fun player => player.matchId = matchRow.id) =
      [joinedPlayerRow matchRow.id (k + 1) identity] := by
    simp [joinedPlayerRow]
  unfold Database.playersOfMatch
  dsimp only
  rw [hrows, List.filter_append, hrow]
  exact (List.perm_insertionSort _ _).trans ((List.perm_insertionSort _ _).symm.append_right _)

theorem SeatedRows.added (h : SeatedRows hashApiKey matchRow db k)
    (hnew : ∀ player ∈ db.playersOfMatch matchRow.id, occupantOfRow hashApiKey db player ≠
      occupantOfRow hashApiKey db (joinedPlayerRow matchRow.id (k + 1) identity)) :
    SeatedRows hashApiKey matchRow db' (k + 1) where
  stored := by
    rw [(extends_addPlayer hadd).matchRows]
    exact h.stored
  rows := by
    intro persistedId
    rw [((playersOfMatch_addPlayer hadd).map (·.id)).mem_iff, List.map_append, List.mem_append, h.rows,
      List.map_singleton, List.mem_singleton]
    constructor
    · intro hseat
      rcases hseat with ⟨i, hfirst, hlast, hid⟩ | hid
      · exact ⟨i, hfirst, by omega, hid⟩
      · exact ⟨k + 1, by omega, le_refl _, hid⟩
    · intro hseat
      obtain ⟨i, hfirst, hlast, hid⟩ := hseat
      rcases Nat.le_succ_iff.1 hlast with hold | rfl
      · exact Or.inl ⟨i, hfirst, hold, hid⟩
      · exact Or.inr hid
  occupants := by
    have hsame : occupantOfRow hashApiKey db' = occupantOfRow hashApiKey db :=
      funext (occupantOfRow_congr hashApiKey (extends_addPlayer hadd).apiKeys)
    rw [hsame, ((playersOfMatch_addPlayer hadd).map _).nodup_iff, List.map_append]
    apply h.occupants.append (List.nodup_singleton _)
    intro occupant hold hadded
    obtain ⟨player, hplayer, rfl⟩ := List.mem_map.1 hold
    exact hnew player hplayer (List.mem_singleton.1 hadded)

theorem occupies_added : Occupies hashApiKey matchRow db'
    (occupantOfRow hashApiKey db (joinedPlayerRow matchRow.id (k + 1) identity)) (canonicalPlayerId (k + 1)) := by
  refine ⟨joinedPlayerRow matchRow.id (k + 1) identity, ?_, ?_, k + 1, rfl, rfl⟩
  · exact (playersOfMatch_addPlayer hadd).mem_iff.2 (List.mem_append_right _ List.mem_cons_self)
  · exact occupantOfRow_congr hashApiKey (extends_addPlayer hadd).apiKeys _

end Added

theorem agentId_resolveLoadedAgentIdentity (hashApiKey : String → String) (player : PlayerRow) (apiKey : ApiKeyRow) :
    (resolveLoadedAgentIdentity hashApiKey player (some apiKey)).agentId = agentIdOfKey hashApiKey apiKey := by
  unfold agentIdOfKey resolveLoadedAgentIdentity
  cases hseeded : (buildSeededProfilesByKeyHash hashApiKey).get? apiKey.keyHash <;> simp only [hseeded]

theorem occupantOfRow_agent {hashApiKey : String → String} {db : Database} {keyHash : String} (matchId : String)
    (joinIndex : Nat) {agent : ResolvedAuthenticatedDbAgent}
    (h : resolveAuthenticatedAgentFromDbKeyHash hashApiKey db keyHash = some agent) :
    occupantOfRow hashApiKey db (joinedPlayerRow matchId joinIndex (agentIdentity agent)) =
      .agent agent.context.agentId := by
  obtain ⟨apiKey, hrow, -, hid, hagent⟩ := context_agentId h
  have hfound : db.apiKeys.get? agent.apiKeyId = some apiKey := Table.get?_eq_some.2 ⟨hrow, hid⟩
  simp only [occupantOfRow, agentIdOfPlayer, apiKeyOfPlayer, joinedPlayerRow, agentIdentity, if_true, Option.bind_some,
    hfound, agentId_resolveLoadedAgentIdentity, hagent]

/-- What an accepted join of a new actor does: it answers with the first free player and adds the next row. -/
structure JoinsAnew (hashApiKey : String → String) (variant : StorageVariant) (matchRow : MatchRow) (n k : Nat)
    (db db' : Database) (occupant : Occupant) (playerId : String) : Prop where
  admits : Admits variant matchRow db k
  first : ∃ rest, deriveJoinablePlayerIds matchRow.status matchRow.state
    (loadJoinedAgents hashApiKey db matchRow.state (db.playersOfMatch matchRow.id))
    (loadJoinedHumans matchRow.state (db.playersOfMatch matchRow.id)) = playerId :: rest
  room : k + 1 ≤ n
  grows : Extends db db'
  seated : SeatedRows hashApiKey matchRow db' (k + 1)
  occupies : Occupies hashApiKey matchRow db' occupant (canonicalPlayerId (k + 1))

section Joining

variable {hashApiKey : String → String} {variant : StorageVariant} {matchRow : MatchRow} {db db' : Database} {k n : Nat}
  (h : SeatedRows hashApiKey matchRow db k) (hplayers : NumberedPlayers matchRow.state n) (hk : k ≤ n)

include h hplayers hk

theorem SeatedRows.joinAs_cases {joinedRecord : MatchRecord} {agentId kind : String} {identity : PlayerIdentity}
    {joined : JoinedMatch} {occupant : Occupant}
    (hfound : ¬ (variant = .postgres ∧ isUuidText matchRow.id = false))
    (hrecord : joinedRecord = composeLoadedMatchRecord hashApiKey db matchRow (db.playersOfMatch matchRow.id) [])
    (hoccupant : occupantOfRow hashApiKey db (joinedPlayerRow matchRow.id (k + 1) identity) = occupant)
    (hnew : joinedRecord.playerOf occupant = none)
    (hjoin : joinAs hashApiKey db matchRow joinedRecord agentId kind identity = .ok (db', joined)) :
    joined.response.agentId = agentId ∧
      JoinsAnew hashApiKey variant matchRow n k db db' occupant joined.response.playerId := by
  unfold joinAs at hjoin
  split at hjoin
  · cases hjoin
  · rename_i assignedPlayerId rest hjoinable
    have hcount : joinedRecord.joinedAgents.keys.length + joinedRecord.joinedHumans.keys.length = k := by
      rw [hrecord]
      exact h.joined_count hplayers hk
    dsimp only at hjoin
    rw [hcount] at hjoin
    split at hjoin
    · cases hjoin
    · rename_i added hadd
      split at hjoin
      · cases hjoin
      · rename_i updatedRecord hload
        cases hjoin
        rw [hrecord] at hjoinable
        have hhead := (h.mem_joinable hplayers hk).1 (by
          have hmem : assignedPlayerId ∈ assignedPlayerId :: rest := List.mem_cons_self
          rwa [← hjoinable] at hmem)
        obtain ⟨hopened, i, hfree, hlast, -⟩ := hhead
        obtain ⟨players, hsession, -⟩ := addPlayer_eq_ok hadd
        refine ⟨rfl, ⟨hfound, fieldsValid_of_loadRecord hload, hopened, (sessionAdd_eq_ok hsession).1⟩,
          ⟨rest, hjoinable⟩, by omega, extends_addPlayer hadd, h.added hadd ?_, ?_⟩
        · intro player hplayer hsame
          obtain ⟨j, -, -, hid⟩ := (h.rows player.id).1 (List.mem_map_of_mem hplayer)
          have hseat : Occupies hashApiKey matchRow db occupant (canonicalPlayerId j) :=
            ⟨player, hplayer, hsame.trans hoccupant, j, hid, rfl⟩
          rw [(h.playerOf_composed hplayers hk hrecord).2 hseat] at hnew
          cases hnew
        · have hseat : Occupies hashApiKey matchRow db' _ _ := occupies_added hadd
          rwa [hoccupant] at hseat

/-- A join either repeats an earlier one or adds the next row. -/
theorem SeatedRows.join_cases {actor : LobbyActor} {joined : JoinedMatch}
    (hjoin : joinDbMatch hashApiKey variant db matchRow.id actor = .ok (db', joined)) :
    Speaks hashApiKey db (actor.occupant joined.response) actor ∧
      (db' = db ∧ Occupies hashApiKey matchRow db (actor.occupant joined.response) joined.response.playerId ∨
        JoinsAnew hashApiKey variant matchRow n k db db' (actor.occupant joined.response) joined.response.playerId) := by
  unfold joinDbMatch at hjoin
  split at hjoin
  · cases hjoin
  · cases hjoin
  · rename_i row hget
    have hrow : row = matchRow := by
      have hfound := sessionGet_eq_ok hget
      rw [h.stored] at hfound
      exact Option.some.inj hfound
    subst hrow
    have hfound : ¬ (variant = .postgres ∧ isUuidText row.id = false) := by
      intro hrefused
      rw [sessionGet, if_pos hrefused] at hget
      cases hget
    split at hjoin
    · cases hjoin
    · rename_i joinedRecord hload
      have hrecord := loadRecord_eq_ok hload
      have hplayerOf : ∀ {occupant playerId}, joinedRecord.playerOf occupant = some playerId ↔
          Occupies hashApiKey row db occupant playerId :=
        h.playerOf_composed hplayers hk hrecord
      cases actor with
      | human userId =>
          refine ⟨rfl, ?_⟩
          dsimp only at hjoin
          unfold joinMatchAsHuman at hjoin
          split at hjoin
          · rename_i existingPlayerId hexisting
            cases hjoin
            exact Or.inl ⟨rfl, hplayerOf.1 hexisting⟩
          · rename_i hfree
            have hnew : joinedRecord.playerOf (.human userId) = none := hfree
            have hoccupant : occupantOfRow hashApiKey db (joinedPlayerRow row.id (k + 1) (humanIdentity db userId)) =
                .human userId := rfl
            exact Or.inr (h.joinAs_cases hplayers hk hfound hrecord hoccupant hnew hjoin).2
      | agent keyHash =>
          dsimp only at hjoin
          unfold joinMatchAsAgent at hjoin
          split at hjoin
          · cases hjoin
          · rename_i agent hagent
            obtain ⟨apiKey, hkey, hhash, -, hagentId⟩ := context_agentId hagent
            split at hjoin
            · rename_i existingPlayerId hexisting
              cases hjoin
              exact ⟨⟨apiKey, hkey, hhash, congrArg _ hagentId⟩, Or.inl ⟨rfl, hplayerOf.1 hexisting⟩⟩
            · rename_i hfree
              have hnew : joinedRecord.playerOf (.agent agent.context.agentId) = none := hfree
              dsimp only at hjoin
              split at hjoin
              · cases hjoin
              · obtain ⟨hresponse, hanew⟩ := h.joinAs_cases hplayers hk hfound hrecord
                  (occupantOfRow_agent row.id (k + 1) hagent) hnew hjoin
                have hoccupant : (LobbyActor.agent keyHash).occupant joined.response = .agent agent.context.agentId :=
                  congrArg Occupant.agent hresponse
                rw [hoccupant]
                exact ⟨⟨apiKey, hkey, hhash, congrArg _ hagentId⟩, Or.inr hanew⟩

end Joining

/-! ### Runs of joins -/

/-- A refused join changes nothing. -/
def joinStep (hashApiKey : String → String) (variant : StorageVariant) (matchId : String) (db : Database)
    (actor : LobbyActor) : Database :=
  match joinDbMatch hashApiKey variant db matchId actor with
  | .error _ => db
  | .ok (db', _) => db'

/-- A record made of the rows of a match: of one match, or as a server starts. -/
inductive Hydrates (hashApiKey : String → String) (db : Database) (matchId : String) (record : MatchRecord) : Prop
  | session (matchRow : MatchRow) (hrow : db.matchRows.get? matchId = some matchRow)
      (hload : loadMatchRecordFromSession hashApiKey db matchRow = .ok record)
  | registry (registry : InMemoryMatchRegistry) (hload : loadMatchRegistryFromDatabase hashApiKey db = .ok registry)
      (hfound : registry.getMatch matchId = some record)

/-- In every run of joins, what an accepted join answers is what its record and every later one know, and no two actors share a player. -/
structure SlotAgreement (hashApiKey : String → String) (variant : StorageVariant) (matchId : String) (db : Database) :
    Prop where
  returned : ∀ (earlier : List LobbyActor) (actor : LobbyActor) (db' : Database) (joined : JoinedMatch),
    joinDbMatch hashApiKey variant (earlier.foldl (joinStep hashApiKey variant matchId) db) matchId actor =
        .ok (db', joined) →
      joined.record.playerOf (actor.occupant joined.response) = some joined.response.playerId
  hydrated : ∀ (earlier : List LobbyActor) (actor : LobbyActor) (db' : Database) (joined : JoinedMatch),
    joinDbMatch hashApiKey variant (earlier.foldl (joinStep hashApiKey variant matchId) db) matchId actor =
        .ok (db', joined) →
      ∀ (later : List LobbyActor) (record : MatchRecord),
        Hydrates hashApiKey (later.foldl (joinStep hashApiKey variant matchId) db') matchId record →
          record.playerOf (actor.occupant joined.response) = some joined.response.playerId
  single : ∀ (earlier : List LobbyActor) (actor : LobbyActor) (db' : Database) (joined : JoinedMatch),
    joinDbMatch hashApiKey variant (earlier.foldl (joinStep hashApiKey variant matchId) db) matchId actor =
        .ok (db', joined) →
      ∀ (later : List LobbyActor) (actor' : LobbyActor) (db'' : Database) (joined' : JoinedMatch),
        joinDbMatch hashApiKey variant (later.foldl (joinStep hashApiKey variant matchId) db') matchId actor' =
            .ok (db'', joined') →
          (actor = actor' ↔ joined.response.playerId = joined'.response.playerId)

/-- Up to nine players the order of the ids is that of the numbers. -/
theorem canonicalPlayerId_le : ∀ i < 10, ∀ j < 10, canonicalPlayerId i ≤ canonicalPlayerId j → i ≤ j := by
  decide +kernel

/-- The rows are numbered, and the next answer names the next row or there is no next one. -/
def Agreeing (hashApiKey : String → String) (variant : StorageVariant) (matchRow : MatchRow) (n : Nat) (db : Database) :
    Prop :=
  ∃ k, k ≤ n ∧ SeatedRows hashApiKey matchRow db k ∧ (n ≤ 9 ∨ ¬ Admits variant matchRow db k)

section Runs

variable {hashApiKey : String → String} {variant : StorageVariant} {matchRow : MatchRow} {db db' : Database} {n : Nat}
  (hplayers : NumberedPlayers matchRow.state n)

include hplayers

/-- The answer is the first of the free players. -/
theorem JoinsAnew.first_free {k : Nat} {occupant : Occupant} {playerId : String}
    (h : SeatedRows hashApiKey matchRow db k) (hk : k ≤ n)
    (hnew : JoinsAnew hashApiKey variant matchRow n k db db' occupant playerId) :
    (∃ i, k < i ∧ i ≤ n ∧ playerId = canonicalPlayerId i) ∧
      ∀ i, k < i → i ≤ n → playerId ≤ canonicalPlayerId i := by
  obtain ⟨rest, hfirst⟩ := hnew.first
  have hmem : ∀ {candidate}, candidate ∈ playerId :: rest ↔ (matchRow.status = .lobby ∨ matchRow.status = .paused) ∧
      ∃ i, k < i ∧ i ≤ n ∧ candidate = canonicalPlayerId i := by
    intro candidate
    rw [← hfirst]
    exact h.mem_joinable hplayers hk
  obtain ⟨hopened, hfree⟩ := hmem.1 List.mem_cons_self
  refine ⟨hfree, ?_⟩
  intro i hnext hlast
  unfold deriveJoinablePlayerIds at hfirst
  rw [if_pos hopened] at hfirst
  exact le_of_insertionSort_eq_cons hfirst (hmem.2 ⟨hopened, i, hnext, hlast, rfl⟩)

theorem JoinsAnew.playerId_eq {k : Nat} {occupant : Occupant} {playerId : String}
    (h : SeatedRows hashApiKey matchRow db k) (hk : k ≤ n) (hn : n ≤ 9)
    (hnew : JoinsAnew hashApiKey variant matchRow n k db db' occupant playerId) :
    playerId = canonicalPlayerId (k + 1) := by
  have hroom := hnew.room
  obtain ⟨⟨i, hfree, hlast, hi⟩, hle⟩ := hnew.first_free hplayers h hk
  have hnext := hle (k + 1) (by omega) hroom
  rw [hi] at hnext
  have horder := canonicalPlayerId_le i (by omega) (k + 1) (by omega) hnext
  rw [hi, show i = k + 1 by omega]

/-- Among ten players the second one is not the first free player: the tenth comes before. -/
theorem JoinsAnew.playerId_ne {occupant : Occupant} {playerId : String} (h : SeatedRows hashApiKey matchRow db 1)
    (hn : 9 < n) (hnew : JoinsAnew hashApiKey variant matchRow n 1 db db' occupant playerId) :
    playerId ≠ canonicalPlayerId 2 := by
  intro hsecond
  have hle := (hnew.first_free hplayers h (by omega)).2 10 (by omega) (by omega)
  rw [hsecond] at hle
  exact absurd hle (by decide +kernel)

/-- What one join answers and adds. -/
theorem Agreeing.join {actor : LobbyActor} {joined : JoinedMatch} (h : Agreeing hashApiKey variant matchRow n db)
    (hjoin : joinDbMatch hashApiKey variant db matchRow.id actor = .ok (db', joined)) :
    Agreeing hashApiKey variant matchRow n db' ∧ Extends db db' ∧
      Speaks hashApiKey db (actor.occupant joined.response) actor ∧
      Occupies hashApiKey matchRow db' (actor.occupant joined.response) joined.response.playerId := by
  obtain ⟨k, hk, hseated, hcondition⟩ := h
  obtain ⟨hspeaks, ⟨rfl, hoccupies⟩ | hnew⟩ := hseated.join_cases hplayers hk hjoin
  · exact ⟨⟨k, hk, hseated, hcondition⟩, Extends.refl _, hspeaks, hoccupies⟩
  · have hn : n ≤ 9 := hcondition.resolve_right (not_not_intro hnew.admits)
    refine ⟨⟨k + 1, hnew.room, hnew.seated, Or.inl hn⟩, hnew.grows, hspeaks, ?_⟩
    rw [hnew.playerId_eq hplayers hseated hk hn]
    exact hnew.occupies

theorem Agreeing.step (h : Agreeing hashApiKey variant matchRow n db) (actor : LobbyActor) :
    Agreeing hashApiKey variant matchRow n (joinStep hashApiKey variant matchRow.id db actor) ∧
      Extends db (joinStep hashApiKey variant matchRow.id db actor) := by
  unfold joinStep
  split
  · exact ⟨h, Extends.refl db⟩
  · rename_i db' joined hjoin
    obtain ⟨hkept, hgrows, -, -⟩ := h.join hplayers hjoin
    exact ⟨hkept, hgrows⟩

theorem Agreeing.run (h : Agreeing hashApiKey variant matchRow n db) (actors : List LobbyActor) :
    Agreeing hashApiKey variant matchRow n (actors.foldl (joinStep hashApiKey variant matchRow.id) db) ∧
      Extends db (actors.foldl (joinStep hashApiKey variant matchRow.id) db) := by
  apply Run.invariant_foldl (I := fun reached => Agreeing hashApiKey variant matchRow n reached ∧ Extends db reached)
  · intro reached actor hreached
    obtain ⟨hkept, hgrows⟩ := hreached.1.step hplayers actor
    exact ⟨hkept, hreached.2.trans hgrows⟩
  · exact ⟨h, Extends.refl db⟩

/-- A record of the rows knows an occupant by the row. -/
theorem Agreeing.playerOf_hydrated {record : MatchRecord} (h : Agreeing hashApiKey variant matchRow n db)
    (hrecord : Hydrates hashApiKey db matchRow.id record) {occupant : Occupant} {playerId : String} :
    record.playerOf occupant = some playerId ↔ Occupies hashApiKey matchRow db occupant playerId := by
  obtain ⟨k, hk, hseated, -⟩ := h
  cases hrecord with
  | session row hrow hload =>
      obtain rfl : matchRow = row := Option.some.inj (hseated.stored.symm.trans hrow)
      exact hseated.playerOf_composed hplayers hk (loadMatchRecordFromSession_eq_ok hashApiKey hload)
  | registry registry hload hfound =>
      rw [getMatch_loadMatchRegistryFromDatabase hload, hseated.stored, Option.map_some] at hfound
      cases hfound
      exact hseated.playerOf_eq_some hplayers hk rfl rfl

end Runs

/-- A row has one occupant and an occupant one row. -/
theorem Occupies.eq_iff {hashApiKey : String → String} {matchRow : MatchRow} {db : Database} {k : Nat}
    (hseated : SeatedRows hashApiKey matchRow db k) {occupant occupant' : Occupant} {playerId playerId' : String}
    (h : Occupies hashApiKey matchRow db occupant playerId) (h' : Occupies hashApiKey matchRow db occupant' playerId') :
    occupant = occupant' ↔ playerId = playerId' := by
  obtain ⟨player, hplayer, rfl, i, hid, rfl⟩ := h
  obtain ⟨player', hplayer', rfl, j, hid', rfl⟩ := h'
  constructor
  · intro hsame
    rw [List.inj_on_of_nodup_map hseated.occupants hplayer hplayer' hsame, hid'] at hid
    rw [scoped_injective _ hid]
  · intro hsame
    have hij : i = j := numberedName_injective _ hsame
    rw [hij, ← hid'] at hid
    rw [List.inj_on_of_nodup_map (playersOfMatch_ids_nodup db matchRow.id) hplayer hplayer' hid]

theorem Agreeing.slotAgreement {hashApiKey : String → String} {variant : StorageVariant} {matchRow : MatchRow}
    {db : Database} {n : Nat} (hplayers : NumberedPlayers matchRow.state n)
    (h : Agreeing hashApiKey variant matchRow n db) : SlotAgreement hashApiKey variant matchRow.id db where
  returned := by
    intro earlier actor db' joined hjoin
    obtain ⟨hagreeing, -, -, hoccupies⟩ := (h.run hplayers earlier).1.join hplayers hjoin
    obtain ⟨k, hk, hseated, -⟩ := hagreeing
    obtain ⟨row, hrow, -, hrecord⟩ := joinDbMatch_eq_ok hjoin
    have hstored : db'.matchRows.get? matchRow.id = some row := by
      obtain ⟨-, hgrows, -, -⟩ := (h.run hplayers earlier).1.join hplayers hjoin
      rw [hgrows.matchRows, hrow]
    obtain rfl : matchRow = row := Option.some.inj (hseated.stored.symm.trans hstored)
    exact (hseated.playerOf_composed hplayers hk hrecord).2 hoccupies
  hydrated := by
    intro earlier actor db' joined hjoin later record hrecord
    obtain ⟨hagreeing, -, -, hoccupies⟩ := (h.run hplayers earlier).1.join hplayers hjoin
    obtain ⟨hlater, hgrows⟩ := hagreeing.run hplayers later
    exact (hlater.playerOf_hydrated hplayers hrecord).2 (hoccupies.grow hgrows)
  single := by
    intro earlier actor db' joined hjoin later actor' db'' joined' hjoin'
    obtain ⟨hagreeing, hadded, hspeaks, hoccupies⟩ := (h.run hplayers earlier).1.join hplayers hjoin
    obtain ⟨hlater, hgrows⟩ := hagreeing.run hplayers later
    obtain ⟨⟨k, hk, hseated, -⟩, hadded', hspeaks', hoccupies'⟩ := hlater.join hplayers hjoin'
    rw [(hspeaks.grow (hadded.trans hgrows)).eq_iff hspeaks']
    exact Occupies.eq_iff hseated (hoccupies.grow (hgrows.trans hadded')) hoccupies'

theorem joinAs_of_addPlayer {hashApiKey : String → String} {matchRow : MatchRow} {db db' : Database}
    {joinedRecord : MatchRecord} {playerId : String} {rest : List String} {identity : PlayerIdentity}
    (hjoinable : joinedRecord.joinablePlayerIds = playerId :: rest)
    (hadd : addPlayer db (joinedPlayerRow matchRow.id
      (joinedRecord.joinedAgents.keys.length + joinedRecord.joinedHumans.keys.length + 1) identity) = .ok db')
    (hvalid : matchRow.state.FieldsValid) {agentId kind : String} :
    ∃ joined, joinAs hashApiKey db matchRow joinedRecord agentId kind identity = .ok (db', joined) := by
  unfold joinAs
  rw [hjoinable]
  dsimp only
  rw [hadd]
  dsimp only
  rw [loadRecord_of_fieldsValid hashApiKey db' hvalid]
  exact ⟨_, rfl⟩

/-- A user who is not yet in the match is let in. -/
theorem SeatedRows.join_human {hashApiKey : String → String} {variant : StorageVariant} {matchRow : MatchRow}
    {db : Database} {k n : Nat} (h : SeatedRows hashApiKey matchRow db k) (hplayers : NumberedPlayers matchRow.state n)
    (hk : k < n) (hadmits : Admits variant matchRow db k) {userId : String}
    (hnew : ∀ playerId, ¬ Occupies hashApiKey matchRow db (.human userId) playerId) :
    ∃ db' joined, joinDbMatch hashApiKey variant db matchRow.id (.human userId) = .ok (db', joined) := by
  have hget : sessionGet variant db.matchRows matchRow.id = .ok (some matchRow) := by
    rw [sessionGet, if_neg hadmits.found, h.stored]
  obtain ⟨record, hrecord⟩ :
      ∃ record, record = composeLoadedMatchRecord hashApiKey db matchRow (db.playersOfMatch matchRow.id) [] := ⟨_, rfl⟩
  have hload := loadRecord_of_fieldsValid hashApiKey db hadmits.loads
  rw [← hrecord] at hload
  have hjoined : record.joinedHumans.get? userId = none := by
    apply Option.eq_none_iff_forall_ne_some.2
    intro playerId hexisting
    exact hnew playerId ((h.playerOf_composed hplayers hk.le hrecord).1 hexisting)
  have hcount : record.joinedAgents.keys.length + record.joinedHumans.keys.length = k := by
    rw [hrecord]
    exact h.joined_count hplayers hk.le
  obtain ⟨playerId, rest, hjoinable⟩ : ∃ playerId rest, record.joinablePlayerIds = playerId :: rest := by
    apply List.exists_cons_of_ne_nil
    rw [hrecord]
    apply List.ne_nil_of_mem
    exact (h.mem_joinable hplayers hk.le).2 ⟨hadmits.opened, k + 1, by omega, hk, rfl⟩
  obtain ⟨players, hinsert, -⟩ := Table.insert_of_not_mem
    (a := joinedPlayerRow matchRow.id (k + 1) (humanIdentity db userId)) hadmits.free
  have hadd : addPlayer db (joinedPlayerRow matchRow.id
      (record.joinedAgents.keys.length + record.joinedHumans.keys.length + 1) (humanIdentity db userId)) =
      .ok { db with players } := by
    rw [hcount, addPlayer, sessionAdd, hinsert]
  obtain ⟨joined, hjoin⟩ : ∃ joined, joinAs hashApiKey db matchRow record (buildHumanActorId userId) "player"
      (humanIdentity db userId) = .ok ({ db with players }, joined) := joinAs_of_addPlayer hjoinable hadd hadmits.loads
  refine ⟨{ db with players }, joined, ?_⟩
  unfold joinDbMatch
  rw [hget]
  dsimp only
  rw [hload]
  dsimp only
  unfold joinMatchAsHuman
  rw [hjoined]
  exact hjoin

/-- The first row of a match is its creator's. -/
theorem SeatedRows.first {hashApiKey : String → String} {matchRow : MatchRow} {db db' : Database}
    {identity : PlayerIdentity} (hstored : db.matchRows.get? matchRow.id = some matchRow)
    (hfresh : ∀ player ∈ db.players.rows, player.matchId ≠ matchRow.id)
    (hadd : addPlayer db (joinedPlayerRow matchRow.id 1 identity) = .ok db') : SeatedRows hashApiKey matchRow db' 1 := by
  have hnone : db.playersOfMatch matchRow.id = [] := by
    apply List.eq_nil_iff_forall_not_mem.2
    intro player hplayer
    obtain ⟨hmem, hmatchId⟩ := Database.mem_playersOfMatch.1 hplayer
    exact hfresh player hmem hmatchId
  have hempty : SeatedRows hashApiKey matchRow db 0 := by
    refine ⟨hstored, ?_, ?_⟩
    · intro persistedId
      rw [hnone]
      constructor
      · intro hmem
        exact absurd hmem List.not_mem_nil
      · intro hseat
        obtain ⟨i, hfirst, hlast, -⟩ := hseat
        omega
    · rw [hnone]
      exact List.nodup_nil
  apply SeatedRows.added hadd hempty
  intro player hplayer
  rw [hnone] at hplayer
  exact absurd hplayer List.not_mem_nil

/-- A new lobby has the row of its creator and the players the request asks for. -/
theorem SeatedRows.created {hashApiKey : String → String} {db db' : Database} {actor : LobbyActor}
    {request : MatchLobbyCreateRequest} {matchId : String} {created : CreatedMatchLobby}
    (hfresh : ∀ player ∈ db.players.rows, player.matchId ≠ matchId)
    (h : createMatchLobby hashApiKey db actor request matchId = .ok (db', created)) :
    ∃ matchRow, matchRow.id = matchId ∧ SeatedRows hashApiKey matchRow db' 1 ∧
      NumberedPlayers matchRow.state request.maxPlayers := by
  obtain ⟨state, creator, agent, matchRows, hstate, -, hmatch, hadd, -⟩ := createMatchLobby_eq_ok h
  obtain ⟨hnew, hrows⟩ := sessionAdd_eq_ok hmatch
  obtain ⟨matchRow, hrow⟩ : ∃ matchRow, matchRow = lobbyMatchRow matchId request state creator := ⟨_, rfl⟩
  obtain rfl : matchRow.id = matchId := by
    rw [hrow]
    rfl
  refine ⟨matchRow, rfl, ?_, ?_⟩
  · rw [← hrow] at hnew hrows
    refine SeatedRows.first ?_ ?_ hadd
    · exact (Table.get?_append hnew hrows _).trans (if_pos rfl)
    · exact hfresh
  · intro playerId
    obtain ⟨citiesOwned, hplayers⟩ := initializeMatchState_players hstate
    have hstate' : matchRow.state = state := by
      rw [hrow]
      rfl
    rw [hstate', hplayers, OrdDict.mem_keys_ofList]
    simp only [lobbyRoster, List.map_map, List.mem_map, List.mem_range'_1, Function.comp_apply]
    constructor
    · intro hmem
      obtain ⟨i, ⟨hfirst, hlast⟩, hid⟩ := hmem
      exact ⟨i, hfirst, by omega, hid.symm⟩
    · intro hmem
      obtain ⟨i, hfirst, hlast, hid⟩ := hmem
      exact ⟨i, ⟨hfirst, by omega⟩, hid.symm⟩

/-- The answers agree with the rows exactly when there are at most nine players or nobody new is let in. -/
theorem slots_agree_iff {hashApiKey : String → String} {variant : StorageVariant} {matchRow : MatchRow} {db : Database}
    {n : Nat} (h : SeatedRows hashApiKey matchRow db 1) (hplayers : NumberedPlayers matchRow.state n) (hn : 1 ≤ n) :
    SlotAgreement hashApiKey variant matchRow.id db ↔ n ≤ 9 ∨ ¬ Admits variant matchRow db 1 := by
  constructor
  · intro hagree
    by_contra hcondition
    rw [not_or, Nat.not_le, not_not] at hcondition
    obtain ⟨hten, hadmits⟩ := hcondition
    -- the creator is at most one of two users
    obtain ⟨userId, hnew⟩ : ∃ userId, ∀ playerId, ¬ Occupies hashApiKey matchRow db (.human userId) playerId := by
      by_contra hall
      simp only [not_exists, not_forall, not_not] at hall
      obtain ⟨first, hfirst⟩ := hall deploymentOwner
      obtain ⟨second, hsecond⟩ := hall deploymentGuest
      obtain ⟨i, hi, hi', rfl⟩ := h.occupied_iff.1 ⟨_, hfirst⟩
      obtain ⟨j, hj, hj', rfl⟩ := h.occupied_iff.1 ⟨_, hsecond⟩
      have hsame := (Occupies.eq_iff h hfirst hsecond).2 (by rw [show i = j by omega])
      exact absurd (Occupant.human.inj hsame) (by decide)
    obtain ⟨db', joined, hjoin⟩ := h.join_human hplayers (by omega) hadmits hnew
    obtain ⟨-, ⟨rfl, hoccupies⟩ | hanew⟩ := h.join_cases hplayers hn hjoin
    · exact hnew _ hoccupies
    · obtain ⟨row, hrow, -, hrecord⟩ := joinDbMatch_eq_ok hjoin
      obtain rfl : matchRow = row := Option.some.inj (h.stored.symm.trans hrow)
      have hreturned := hagree.returned [] _ db' joined hjoin
      rw [hanew.seated.playerOf_composed hplayers hanew.room hrecord] at hreturned
      have hsecond := (Occupies.eq_iff hanew.seated hreturned hanew.occupies).1 rfl
      exact hanew.playerId_ne hplayers h hten hsecond
  · intro hcondition
    exact Agreeing.slotAgreement hplayers ⟨1, hn, h, hcondition⟩

/-! ### Lobbies of two and of ten -/

def lobbyDatabase (request : MatchLobbyCreateRequest) : Database :=
  ((createMatchLobby deploymentHash deploymentDatabase (.human deploymentOwner) request
    deploymentMatchId).toOption.map Prod.fst).getD deploymentDatabase

theorem slots_agree_iff_pair :
    SlotAgreement deploymentHash .postgres deploymentMatchId (lobbyDatabase (deploymentRequest 2)) := by
  obtain ⟨⟨db, created⟩, hcreated⟩ := Option.isSome_iff_exists.1
    (show (createMatchLobby deploymentHash deploymentDatabase (.human deploymentOwner) (deploymentRequest 2)
      deploymentMatchId).toOption.isSome = true by decide +kernel)
  obtain ⟨matchRow, hid, hseated, hplayers⟩ := SeatedRows.created
    (fun player hplayer => absurd hplayer List.not_mem_nil) (eq_ok_of_toOption hcreated)
  rw [lobbyDatabase, hcreated, Option.map_some, Option.getD_some, ← hid]
  exact (slots_agree_iff hseated hplayers (by decide)).2 (Or.inl (by decide))

def crowdCities : List String :=
  ["london", "southampton", "bristol", "birmingham", "manchester", "leeds", "newcastle", "glasgow", "edinburgh", "cardiff"]

/-- Ten players with a city each. -/
def crowdState : MatchState where
  tick := 0
  cities := OrdDict.ofList (crowdCities.mapIdx fun i cityId => (cityId, duelCity (canonicalPlayerId (i + 1))))
  armies := []
  players := OrdDict.ofList (crowdCities.mapIdx fun i cityId => (canonicalPlayerId (i + 1), duelPlayer cityId))
  victory := ⟨none, 0, 6, none⟩

def crowdCreator : PlayerIdentity := humanIdentity deploymentDatabase deploymentOwner

def crowdRow : MatchRow :=
  lobbyMatchRow deploymentMatchId
    { deploymentRequest 5 with maxPlayers := 10, maxPlayers_pos := by decide } crowdState crowdCreator

def crowdDatabase : Database :=
  { deploymentDatabase with
    matchRows := ⟨[crowdRow], List.nodup_singleton _⟩
    players := ⟨[joinedPlayerRow deploymentMatchId 1 crowdCreator], List.nodup_singleton _⟩ }

/-- In a lobby of ten the first to join is answered the tenth player and recorded as the second. The map has starting cities for six players at most, so `createMatchLobby` makes no such row; joining and hydration take it as they take any. -/
theorem tenth_answered_second_recorded :
    SeatedRows deploymentHash crowdRow crowdDatabase 1 ∧ NumberedPlayers crowdRow.state 10 ∧
    (∃ db joined, joinDbMatch deploymentHash .postgres crowdDatabase deploymentMatchId (.human deploymentGuest) =
        .ok (db, joined) ∧
      joined.response.playerId = "player-10" ∧
      joined.record.playerOf (.human deploymentGuest) = some "player-2") ∧
    ¬ SlotAgreement deploymentHash .postgres deploymentMatchId crowdDatabase := by
  obtain ⟨⟨db, joined⟩, hjoined, hanswer⟩ := Option.map_eq_some_iff.1
    (show ((joinDbMatch deploymentHash .postgres crowdDatabase deploymentMatchId
      (.human deploymentGuest)).toOption.map fun result =>
        (result.2.response.playerId, result.2.record.playerOf (.human deploymentGuest))) =
      some ("player-10", some "player-2") by decide +kernel)
  obtain ⟨hresponse, hrecorded⟩ := Prod.mk.inj hanswer
  have hjoin := eq_ok_of_toOption hjoined
  refine ⟨?_, ?_, ⟨db, joined, hjoin, hresponse, hrecorded⟩, ?_⟩
  · have hadd : addPlayer { deploymentDatabase with matchRows := ⟨[crowdRow], List.nodup_singleton _⟩ }
        (joinedPlayerRow crowdRow.id 1 crowdCreator) = .ok crowdDatabase := rfl
    refine SeatedRows.first rfl ?_ hadd
    intro player hplayer
    exact absurd hplayer List.not_mem_nil
  · intro playerId
    have hkeys : crowdRow.state.players.keys = (List.range' 1 10).map canonicalPlayerId := by decide +kernel
    rw [hkeys, List.mem_map]
    simp only [List.mem_range'_1]
    constructor
    · intro hmem
      obtain ⟨i, ⟨hfirst, hlast⟩, hid⟩ := hmem
      exact ⟨i, hfirst, by omega, hid.symm⟩
    · intro hmem
      obtain ⟨i, hfirst, hlast, hid⟩ := hmem
      exact ⟨i, ⟨hfirst, by omega⟩, hid.symm⟩
  · intro hagree
    have hreturned := hagree.returned [] _ db joined hjoin
    have hsame := hrecorded.symm.trans hreturned
    rw [hresponse] at hsame
    exact absurd hsame (by decide)

end IronCouncil
