import IronCouncil.Base.ListUpdate
import IronCouncil.Base.Run
import IronCouncil.Registry.Messaging
import IronCouncil.Resolver.Tick

/-!
# Treaties and alliances

The diplomacy of a match: alliances and the victory state they move, treaties from proposal to withdrawal, and the treaties a tick's movements break.
-/

namespace IronCouncil

/-! ### Victory after an alliance action -/

/-- An empty alliance id counts as no alliance. -/
def plainCoalitionId (owner : String) : Option String → String
  | none => owner
  | some allianceId => if allianceId = "" then owner else allianceId

def plainCoalitionOfOwner (state : MatchState) (city : CityState) : Option String :=
  match city.owner with
  | none => none
  | some owner => (state.players.get? owner).map fun player => plainCoalitionId owner player.allianceId

def plainCityCounts (state : MatchState) : OrdDict String Nat :=
  tally (state.cities.values.filterMap (plainCoalitionOfOwner state))

def syncedVictoryCountdown (victory : VictoryState) (leadingAlliance : Option String) (citiesHeld : Nat) :
    Option Nat :=
  if leadingAlliance = none ∨ citiesHeld < victory.threshold then none
  else if victory.leadingAlliance = none then some victory.threshold
  else if victory.leadingAlliance ≠ leadingAlliance then none
  else
    match victory.countdownTicksRemaining with
    | none => some victory.threshold
    | some countdown => some countdown

def syncedVictory (victory : VictoryState) (leading : Option String × Nat) : VictoryState :=
  { victory with
    leadingAlliance := leading.1
    citiesHeld := leading.2
    countdownTicksRemaining := syncedVictoryCountdown victory leading.1 leading.2 }

/-- The unique leader and the largest count, by plain id. -/
def plainLeading (state : MatchState) : Option String × Nat :=
  (soleLeader (plainCityCounts state), largestCount (plainCityCounts state))

def syncVictoryState (state : MatchState) : MatchState :=
  { state with victory := syncedVictory state.victory (plainLeading state) }

theorem syncVictoryState_eq_self_iff {state : MatchState} :
    syncVictoryState state = state ↔ syncedVictory state.victory (plainLeading state) = state.victory := by
  constructor
  · intro h
    exact congrArg MatchState.victory h
  · intro h
    unfold syncVictoryState
    rw [h]

/-! ### Alliances -/

/-- A parsed request: each action has the fields it needs and no others. -/
inductive AllianceActionRequest
  | create (name : String)
  | join (allianceId : String)
  | leave
deriving DecidableEq, Repr

def findAlliance (alliances : List MatchAlliance) (allianceId : String) : Option MatchAlliance :=
  alliances.find? fun alliance => alliance.allianceId = allianceId

def nextAllianceId (alliances : List MatchAlliance) : String :=
  let existing := alliances.map (·.allianceId)
  nextFree (numberedName "alliance-") existing (existing.length + 1) 1

/-- The response's copy of an alliance lists the members by player id. -/
def toAllianceRecord (alliance : MatchAlliance) : MatchAlliance :=
  { alliance with
    members := alliance.members.insertionSort fun first second => first.playerId ≤ second.playerId }

def deriveAlliancesFromState (state : MatchState) : List MatchAlliance :=
  let memberships := (state.players.entries.filterMap fun entry =>
    entry.2.allianceId.map fun allianceId => (allianceId, entry.1)).foldl
      (fun groups pair => groups.upsert pair.1 [pair.2] (· ++ [pair.2])) (OrdDict.empty : OrdDict String (List String))
  (memberships.entries.insertionSort fun first second => first.1 ≤ second.1).map fun entry =>
    let memberIds := entry.2.insertionSort (· ≤ ·)
    { allianceId := entry.1
      name := entry.1
      leaderId := memberIds.headD ""
      formedTick := state.tick
      members := memberIds.map fun memberId => ⟨memberId, state.tick⟩ }

def listAlliances (record : Option MatchRecord) : List MatchAlliance :=
  match record with
  | none => []
  | some record =>
      let alliances := if record.alliances = [] then deriveAlliancesFromState record.state else record.alliances
      (alliances.insertionSort fun first second => first.allianceId ≤ second.allianceId).map toAllianceRecord

/-- The least of a non-empty list of ids. -/
def leastId (ids : List String) : String := (ids.insertionSort (· ≤ ·)).headD ""

def setAlliance (state : MatchState) (playerId : String) (allianceId : Option String) : MatchState :=
  state.modifyPlayer playerId fun player => { player with allianceId := allianceId }

/-- Store an alliance list and a player's alliance, and bring the victory state up to date. -/
def storeAlliances (record : MatchRecord) (alliances : List MatchAlliance) (playerId : String)
    (allianceId : Option String) : MatchRecord :=
  { record with
    alliances := alliances
    state := syncVictoryState (setAlliance record.state playerId allianceId) }

def createAlliance (record : MatchRecord) (name playerId : String) (player : PlayerState) :
    Except RegistryError (MatchRecord × Option MatchAlliance) :=
  match player.allianceId with
  | some currentAllianceId => .error (.allianceTransition "player_already_in_alliance"
      s!"Player '{playerId}' is already in alliance '{currentAllianceId}'.")
  | none =>
      let stored : MatchAlliance :=
        { allianceId := nextAllianceId record.alliances
          name := name
          leaderId := playerId
          formedTick := record.state.tick
          members := [⟨playerId, record.state.tick⟩] }
      .ok (storeAlliances record (record.alliances ++ [stored]) playerId (some stored.allianceId),
        some (toAllianceRecord stored))

def joinAlliance (record : MatchRecord) (matchId allianceId playerId : String) (player : PlayerState) :
    Except RegistryError (MatchRecord × Option MatchAlliance) :=
  match player.allianceId with
  | some currentAllianceId => .error (.allianceTransition "player_already_in_alliance"
      s!"Player '{playerId}' is already in alliance '{currentAllianceId}'.")
  | none =>
      match findAlliance record.alliances allianceId with
      | none => .error (.allianceTransition "alliance_not_found"
          s!"Alliance '{allianceId}' was not found in match '{matchId}'.")
      | some alliance =>
          let joined := { alliance with members := alliance.members ++ [⟨playerId, record.state.tick⟩] }
          let alliances := record.alliances.modifyFirstWhere (fun stored => stored.allianceId = allianceId)
            fun _ => joined
          .ok (storeAlliances record alliances playerId (some allianceId), some (toAllianceRecord joined))

/-- The alliance a departure leaves behind. A departing leader hands over to the least member id. -/
def departedAlliance (alliance : MatchAlliance) (playerId : String) : MatchAlliance :=
  let members := alliance.members.filter fun member => member.playerId ≠ playerId
  { alliance with
    members := members
    leaderId := if alliance.leaderId = playerId then leastId (members.map (·.playerId)) else alliance.leaderId }

def leaveAlliance (record : MatchRecord) (matchId playerId : String) (player : PlayerState) :
    Except RegistryError (MatchRecord × Option MatchAlliance) :=
  match player.allianceId with
  | none => .error (.allianceTransition "player_not_in_alliance"
      s!"Player '{playerId}' is not currently in an alliance.")
  | some currentAllianceId =>
      match findAlliance record.alliances currentAllianceId with
      | none => .error (.allianceTransition "alliance_not_found"
          s!"Alliance '{currentAllianceId}' was not found in match '{matchId}'.")
      | some alliance =>
          let departed := departedAlliance alliance playerId
          if departed.members = [] then
            let alliances := record.alliances.filter fun stored => stored.allianceId ≠ currentAllianceId
            .ok (storeAlliances record alliances playerId none, none)
          else
            let alliances := record.alliances.modifyFirstWhere
              (fun stored => stored.allianceId = currentAllianceId) fun _ => departed
            .ok (storeAlliances record alliances playerId none, some (toAllianceRecord departed))

def applyAllianceAction (record : MatchRecord) (matchId : String) (action : AllianceActionRequest)
    (playerId : String) : Except RegistryError (MatchRecord × Option MatchAlliance) :=
  match record.state.players.get? playerId with
  | none => .error (.keyError playerId)
  | some player =>
      match action with
      | .create name => createAlliance record name playerId player
      | .join allianceId => joinAlliance record matchId allianceId playerId player
      | .leave => leaveAlliance record matchId playerId player

/-- An alliance id that an action may bring in: a minted one or that of a stored alliance. -/
def KnownAllianceId (alliances : List MatchAlliance) (allianceId : String) : Prop :=
  (∃ n, allianceId = numberedName "alliance-" n) ∨ ∃ alliance ∈ alliances, alliance.allianceId = allianceId

theorem knownAllianceId_of_mem {alliances : List MatchAlliance} {alliance : MatchAlliance}
    (hmem : alliance ∈ alliances) : KnownAllianceId alliances alliance.allianceId := Or.inr ⟨alliance, hmem, rfl⟩

/-- An accepted action stores an alliance list and the player's alliance, and brings in known ids only. -/
theorem applyAllianceAction_eq_ok {record next : MatchRecord} {matchId playerId : String}
    {action : AllianceActionRequest} {response : Option MatchAlliance}
    (h : applyAllianceAction record matchId action playerId = .ok (next, response)) :
    ∃ alliances allianceId, next = storeAlliances record alliances playerId allianceId ∧
      (∀ id, allianceId = some id → KnownAllianceId record.alliances id) ∧
      ∀ alliance ∈ alliances, KnownAllianceId record.alliances alliance.allianceId := by
  unfold applyAllianceAction at h
  split at h
  · cases h
  · rename_i player hplayer
    cases action with
    | create name =>
        simp only [createAlliance] at h
        split at h
        · cases h
        · cases h
          have hminted : KnownAllianceId record.alliances (nextAllianceId record.alliances) := by
            obtain ⟨n, -, hn⟩ := nextFree_eq_name (numberedName "alliance-") (record.alliances.map (·.allianceId))
              ((record.alliances.map (·.allianceId)).length + 1) 1
            exact Or.inl ⟨n, hn⟩
          refine ⟨_, _, rfl, ?_, ?_⟩
          · intro id hid
            cases hid
            exact hminted
          · intro alliance halliance
            rcases List.mem_append.1 halliance with halliance | halliance
            · exact knownAllianceId_of_mem halliance
            · rw [List.mem_singleton.1 halliance]
              exact hminted
    | join allianceId =>
        simp only [joinAlliance] at h
        split at h
        · cases h
        · split at h
          · cases h
          · rename_i stored hstored
            cases h
            have hmem := List.mem_of_find?_eq_some hstored
            have hid : stored.allianceId = allianceId := by simpa using List.find?_some hstored
            refine ⟨_, _, rfl, ?_, ?_⟩
            · intro id hsome
              cases hsome
              exact Or.inr ⟨stored, hmem, hid⟩
            · intro alliance halliance
              rcases List.mem_modifyFirstWhere halliance with halliance | ⟨-, -, -, rfl⟩
              · exact knownAllianceId_of_mem halliance
              · exact Or.inr ⟨stored, hmem, rfl⟩
    | leave =>
        simp only [leaveAlliance] at h
        split at h
        · cases h
        · split at h
          · cases h
          · rename_i stored hstored
            have hmem := List.mem_of_find?_eq_some hstored
            split at h
            · cases h
              refine ⟨_, _, rfl, ?_, ?_⟩
              · intro id hid
                cases hid
              · intro alliance halliance
                exact knownAllianceId_of_mem (List.mem_filter.1 halliance).1
            · cases h
              refine ⟨_, _, rfl, ?_, ?_⟩
              · intro id hid
                cases hid
              · intro alliance halliance
                rcases List.mem_modifyFirstWhere halliance with halliance | ⟨-, -, -, rfl⟩
                · exact knownAllianceId_of_mem halliance
                · exact Or.inr ⟨stored, hmem, rfl⟩

/-! ### Treaty actions -/

def treatyLatestTick (treaty : MatchTreaty) : Nat :=
  max treaty.proposedTick
    (max (treaty.signedTick.getD treaty.proposedTick) (treaty.withdrawnTick.getD treaty.proposedTick))

def treatyListingKey (treaty : MatchTreaty) : String ×ₗ String ×ₗ String ×ₗ Nat :=
  toLex (treaty.playerAId, toLex (treaty.playerBId, toLex (treaty.treatyType.value, treaty.treatyId)))

def listTreaties (record : Option MatchRecord) (sinceTick : Option Nat) : List MatchTreaty :=
  match record with
  | none => []
  | some record =>
      (record.treaties.filter fun treaty => isSince sinceTick (treatyLatestTick treaty)).insertionSort
        fun first second => treatyListingKey first ≤ treatyListingKey second

inductive TreatyAction
  | propose
  | accept
  | withdraw
deriving DecidableEq, Repr

structure TreatyActionRequest where
  counterpartyId : String
  action : TreatyAction
  treatyType : TreatyType
deriving DecidableEq, Repr

def sortedPair (first second : String) : String × String :=
  if first ≤ second then (first, second) else (second, first)

def MatchTreaty.isBetween (treaty : MatchTreaty) (parties : String × String) (treatyType : TreatyType) : Bool :=
  treaty.playerAId = parties.1 ∧ treaty.playerBId = parties.2 ∧ treaty.treatyType = treatyType

def findLatestTreaty (treaties : List MatchTreaty) (parties : String × String) (treatyType : TreatyType) :
    Option MatchTreaty :=
  (treaties.filter (·.isBetween parties treatyType)).getLast?

def updateLatestTreaty (record : MatchRecord) (parties : String × String) (treatyType : TreatyType)
    (treaty : MatchTreaty) : MatchRecord :=
  { record with
    treaties := record.treaties.modifyLastWhere (·.isBetween parties treatyType) fun _ => treaty }

def unsupportedTransition (verb : String) (treatyType : TreatyType) (parties : String × String) : RegistryError :=
  .treatyTransition "unsupported_treaty_transition"
    s!"Cannot {verb} treaty '{treatyType.value}' for players '{parties.1}' and '{parties.2}'."

def proposeTreaty (record : MatchRecord) (parties : String × String) (treatyType : TreatyType)
    (playerId : String) (latest : Option MatchTreaty) : Except RegistryError (MatchRecord × MatchTreaty) :=
  if latest.any fun treaty => treaty.status ∉ [.withdrawn, .brokenByA, .brokenByB] then
    .error (unsupportedTransition "propose" treatyType parties)
  else
    let stored : MatchTreaty :=
      { treatyId := record.treaties.length
        playerAId := parties.1
        playerBId := parties.2
        treatyType := treatyType
        status := .proposed
        proposedBy := playerId
        proposedTick := record.state.tick
        signedTick := none
        withdrawnBy := none
        withdrawnTick := none }
    .ok ({ record with treaties := record.treaties ++ [stored] }, stored)

def acceptTreaty (record : MatchRecord) (parties : String × String) (treatyType : TreatyType)
    (playerId : String) (latest : MatchTreaty) : Except RegistryError (MatchRecord × MatchTreaty) :=
  if latest.status ≠ .proposed ∨ latest.proposedBy = playerId then
    .error (unsupportedTransition "accept" treatyType parties)
  else
    let signed := { latest with status := .active, signedTick := some record.state.tick }
    .ok
      (recordWorldMessage (updateLatestTreaty record parties treatyType signed) record.state.tick
          s!"Treaty signed: {parties.1} and {parties.2} entered a {treatyType.value} treaty.",
        signed)

def withdrawTreaty (record : MatchRecord) (parties : String × String) (action : TreatyActionRequest)
    (playerId : String) (latest : MatchTreaty) : Except RegistryError (MatchRecord × MatchTreaty) :=
  if latest.status ∉ [.proposed, .active] then
    .error (unsupportedTransition "withdraw" action.treatyType parties)
  else
    let withdrawn :=
      { latest with
        status := .withdrawn
        withdrawnBy := some playerId
        withdrawnTick := some record.state.tick }
    .ok
      (recordWorldMessage (updateLatestTreaty record parties action.treatyType withdrawn) record.state.tick
          s!"Treaty withdrawn: {playerId} withdrew the {action.treatyType.value} treaty with {action.counterpartyId}.",
        withdrawn)

def applyTreatyAction (record : MatchRecord) (action : TreatyActionRequest) (playerId : String) :
    Except RegistryError (MatchRecord × MatchTreaty) :=
  let parties := sortedPair playerId action.counterpartyId
  let latestTreaty := findLatestTreaty record.treaties parties action.treatyType
  match action.action, latestTreaty with
  | .propose, latest => proposeTreaty record parties action.treatyType playerId latest
  | .accept, none => .error (unsupportedTransition "accept" action.treatyType parties)
  | .withdraw, none => .error (.treatyTransition "treaty_not_found"
      s!"No treaty exists for players '{parties.1}' and '{parties.2}' with type '{action.treatyType.value}'.")
  | .accept, some latest => acceptTreaty record parties action.treatyType playerId latest
  | .withdraw, some latest => withdrawTreaty record parties action playerId latest

def validateCommandTreaty (record : MatchRecord) (matchId : String) (treaty : TreatyActionRequest)
    (playerId : String) : Except RegistryError Unit :=
  if treaty.counterpartyId ∉ record.state.players.keys then
    .error (.matchAccess "player_not_found"
      s!"Player '{treaty.counterpartyId}' was not found in match '{matchId}'.")
  else if playerId = treaty.counterpartyId then
    .error (.matchAccess "self_targeted_treaty" "Treaty actions require two different players.")
  else .ok ()

/-! ### Treaty breaks -/

/-- The players an order attacks: everyone else who owns or occupies its destination before the tick. -/
def defenderIds (state : MatchState) (attackerId destination : String) (city : CityState) : List String :=
  ((occupyingOwners state destination ++ city.owner.toList).dedup.filter (· ≠ attackerId)).insertionSort (· ≤ ·)

/-- An order's attacks, as pairs of attacker and defender. -/
def hostilePairs (state : MatchState) (order : MovementOrder) : List (String × String) :=
  match armyById state.armies order.armyId, state.cities.get? order.destination with
  | some attackingArmy, some destinationCity =>
      (defenderIds state attackingArmy.owner order.destination destinationCity).map
        fun defenderId => (attackingArmy.owner, defenderId)
  | _, _ => []

def MatchTreaty.isActiveBetween (treaty : MatchTreaty) (parties : String × String) : Bool :=
  treaty.playerAId = parties.1 ∧ treaty.playerBId = parties.2 ∧ treaty.status = .active

def breakTreaty (attackerId defenderId : String) (breakTick : Nat) (treaty : MatchTreaty) : MatchTreaty :=
  { treaty with
    status := if attackerId = (sortedPair attackerId defenderId).1 then .brokenByA else .brokenByB
    withdrawnBy := some attackerId
    withdrawnTick := some breakTick }

def treatyBrokenText (attackerId defenderId : String) (treaty : MatchTreaty) : String :=
  s!"Treaty broken: {attackerId} attacked {defenderId} and broke their {treaty.treatyType.value} treaty."

def breakActiveTreatiesBetweenPlayers (breakTick : Nat) (record : MatchRecord) (attack : String × String) :
    MatchRecord :=
  let parties := sortedPair attack.1 attack.2
  let broken := record.treaties.filter (·.isActiveBetween parties)
  broken.foldl (fun record treaty => recordWorldMessage record breakTick (treatyBrokenText attack.1 attack.2 treaty))
    { record with
      treaties := record.treaties.map fun treaty =>
        if treaty.isActiveBetween parties then breakTreaty attack.1 attack.2 breakTick treaty else treaty }

def reconcileHostileTreatyBreaks (record : MatchRecord) (preResolutionState : MatchState)
    (acceptedOrders : OrderBatch) : MatchRecord :=
  (acceptedOrders.movements.flatMap (hostilePairs preResolutionState)).foldl
    (breakActiveTreatiesBetweenPlayers preResolutionState.tick) record

/-! ### What a break leaves alone -/

theorem breakTreaty_not_active (attackerId defenderId : String) (breakTick : Nat) (treaty : MatchTreaty)
    (parties : String × String) : (breakTreaty attackerId defenderId breakTick treaty).isActiveBetween parties = false := by
  unfold breakTreaty MatchTreaty.isActiveBetween
  split <;> simp

section Frame

variable {γ : Type}

/-- A break changes treaties and messages only. -/
theorem breakActiveTreatiesBetweenPlayers_frame {g : MatchRecord → γ}
    (hg : ∀ record treaties messages, g { record with treaties := treaties, messages := messages } = g record)
    (breakTick : Nat) (record : MatchRecord) (attack : String × String) :
    g (breakActiveTreatiesBetweenPlayers breakTick record attack) = g record := by
  unfold breakActiveTreatiesBetweenPlayers
  simp only
  rw [Run.frame_foldl (g := g)]
  · exact hg record _ record.messages
  · exact fun record treaty => hg record record.treaties _

theorem reconcileHostileTreatyBreaks_frame {g : MatchRecord → γ}
    (hg : ∀ record treaties messages, g { record with treaties := treaties, messages := messages } = g record)
    (record : MatchRecord) (preResolutionState : MatchState) (acceptedOrders : OrderBatch) :
    g (reconcileHostileTreatyBreaks record preResolutionState acceptedOrders) = g record :=
  Run.frame_foldl (g := g) (breakActiveTreatiesBetweenPlayers_frame hg preResolutionState.tick) _ _

end Frame

@[simp] theorem reconcileHostileTreatyBreaks_state (record : MatchRecord) (preResolutionState : MatchState)
    (acceptedOrders : OrderBatch) :
    (reconcileHostileTreatyBreaks record preResolutionState acceptedOrders).state = record.state :=
  reconcileHostileTreatyBreaks_frame (g := fun record => record.state) (fun _ _ _ => rfl) _ _ _

@[simp] theorem reconcileHostileTreatyBreaks_alliances (record : MatchRecord) (preResolutionState : MatchState)
    (acceptedOrders : OrderBatch) :
    (reconcileHostileTreatyBreaks record preResolutionState acceptedOrders).alliances = record.alliances :=
  reconcileHostileTreatyBreaks_frame (g := fun record => record.alliances) (fun _ _ _ => rfl) _ _ _

end IronCouncil
