import IronCouncil.Base.KeyOrder
import IronCouncil.Websocket

/-!
# What the fog hides

Two records that agree on what a player may know are shown to the player alike. What the player may know is said in terms of the records: the coalition's cities and armies in full, the owners of the cities around them, the other armies in sight but for their strength and route, the open talk and the player's own.
-/

namespace IronCouncil

/-! ### What a player may know -/

/-- What is seen of an army that is not the coalition's. -/
structure ArmySighting where
  id : String
  owner : String
  location : Option String
  destination : Option String
  ticksRemaining : Int
  hasPath : Bool
deriving DecidableEq

def ArmyState.sighting (army : ArmyState) : ArmySighting where
  id := army.id
  owner := army.owner
  location := army.location
  destination := army.destination
  ticksRemaining := army.ticksRemaining
  hasPath := army.path.isSome

def coalitionOf (state : MatchState) (playerId : String) : List String :=
  ((state.players.get? playerId).map (alliedPlayerIds state playerId)).getD []

def cityIdsOf (state : MatchState) (coalition : List String) : List String :=
  state.cities.keys.filter fun cityId => (state.cityOwner cityId).any (· ∈ coalition)

def inSight (cityIds : List String) (mapDefinition : MapDefinition) (cityId : String) : Prop :=
  cityId ∈ cityIds ∨ cityId ∈ adjacentCityIds cityIds mapDefinition

/-- An army of somebody else that stands in, or marches to, a city in sight. -/
def sighted (coalition cityIds : List String) (mapDefinition : MapDefinition) (army : ArmyState) : Prop :=
  army.owner ∉ coalition ∧
    ∃ cityId, inSight cityIds mapDefinition cityId ∧ (army.location = some cityId ∨ army.destination = some cityId)

def directMessagesOf (record : MatchRecord) (playerId : String) : List MatchMessage :=
  record.messages.filter fun message =>
    message.channel = .direct ∧ (message.senderId = playerId ∨ message.recipientId = some playerId)

/-- The records agree on all that the player may know. -/
structure SameKnowledge (mapDefinition : MapDefinition) (playerId : String) (first second : MatchRecord) : Prop where
  tick : first.state.tick = second.state.tick
  resources : (first.state.players.get? playerId).map (·.resources) = (second.state.players.get? playerId).map (·.resources)
  allianceIds : ∀ other,
    (first.state.players.get? other).map (·.allianceId) = (second.state.players.get? other).map (·.allianceId)
  victory : first.state.victory = second.state.victory
  treaties : first.treaties = second.treaties
  alliances : first.alliances = second.alliances
  ownCities : ∀ cityId city, city.owner.any (· ∈ coalitionOf first.state playerId) →
    (first.state.cities.get? cityId = some city ↔ second.state.cities.get? cityId = some city)
  adjacentOwners : ∀ cityId ∈ adjacentCityIds (cityIdsOf first.state (coalitionOf first.state playerId)) mapDefinition,
    (first.state.cities.get? cityId).map (·.owner) = (second.state.cities.get? cityId).map (·.owner)
  ownArmies : ∀ army, army.owner ∈ coalitionOf first.state playerId →
    (army ∈ first.state.armies ↔ army ∈ second.state.armies)
  sightings : ∀ sighting,
    (∃ army ∈ first.state.armies,
        sighted (coalitionOf first.state playerId) (cityIdsOf first.state (coalitionOf first.state playerId)) mapDefinition army ∧
          army.sighting = sighting) ↔
      ∃ army ∈ second.state.armies,
        sighted (coalitionOf first.state playerId) (cityIdsOf first.state (coalitionOf first.state playerId)) mapDefinition army ∧
          army.sighting = sighting
  worldMessages : listWorldMessages first = listWorldMessages second
  directMessages : directMessagesOf first playerId = directMessagesOf second playerId
  groupChats : (first.groupChats.filter fun groupChat => playerId ∈ groupChat.memberIds) =
    second.groupChats.filter fun groupChat => playerId ∈ groupChat.memberIds

/-! ### The projection -/

theorem mem_alliedPlayerIds {state : MatchState} {playerId other : String} {player : PlayerState} :
    other ∈ alliedPlayerIds state playerId player ↔
      (player.allianceId = none ∧ other = playerId) ∨
        ∃ allianceId, player.allianceId = some allianceId ∧
          (state.players.get? other).map (·.allianceId) = some (some allianceId) := by
  unfold alliedPlayerIds
  cases halliance : player.allianceId with
  | none => simp
  | some allianceId =>
      simp only [List.mem_map, List.mem_filter, decide_eq_true_eq, Prod.exists, exists_and_right, exists_eq_right,
        ← OrdDict.get?_eq_some, Option.map_eq_some_iff, reduceCtorEq, false_and, false_or, Option.some.injEq,
        exists_eq_left']

theorem alliedPlayerIds_nodup (state : MatchState) (playerId : String) (player : PlayerState) :
    (alliedPlayerIds state playerId player).Nodup := by
  unfold alliedPlayerIds
  split
  · exact List.nodup_singleton playerId
  · exact state.players.nodup.sublist (List.filter_sublist.map Prod.fst)

theorem mem_fullVisibilityCityIds {state : MatchState} {allied : List String} {cityId : String} :
    cityId ∈ fullVisibilityCityIds state allied ↔
      ∃ city, state.cities.get? cityId = some city ∧ city.owner.any (· ∈ allied) := by
  unfold fullVisibilityCityIds
  simp only [List.mem_map, List.mem_filter, Prod.exists, exists_and_right, exists_eq_right, ← OrdDict.get?_eq_some]

theorem fullVisibilityCityIds_eq (state : MatchState) (allied : List String) :
    fullVisibilityCityIds state allied = cityIdsOf state allied := by
  unfold fullVisibilityCityIds cityIdsOf OrdDict.keys
  rw [List.filter_map]
  congr 1
  apply List.filter_congr
  intro entry hentry
  unfold MatchState.cityOwner
  simp only [Function.comp_apply, OrdDict.get?_eq_some.2 hentry, Option.bind_some]

theorem mem_visibleCityIds {mapDefinition : MapDefinition} {cityIds : List String} {cityId : String} :
    cityId ∈ visibleCityIds mapDefinition cityIds ↔ inSight cityIds mapDefinition cityId := by
  unfold visibleCityIds inSight
  rw [List.mem_dedup, List.mem_append]

theorem visibleCityIds_nodup (mapDefinition : MapDefinition) (cityIds : List String) :
    (visibleCityIds mapDefinition cityIds).Nodup := List.nodup_dedup _

theorem projectCity_congr {cityIds cityIds' : List String} (h : ∀ cityId, cityId ∈ cityIds ↔ cityId ∈ cityIds')
    (cityId : String) (city : CityState) : projectCity cityId city cityIds = projectCity cityId city cityIds' := by
  unfold projectCity
  simp only [h cityId]

/-- Of a city out of the coalition's hands only the owner is shown. -/
theorem projectCity_of_owner {cityIds : List String} {cityId : String} (hout : cityId ∉ cityIds) {city city' : CityState}
    (howner : city.owner = city'.owner) : projectCity cityId city cityIds = projectCity cityId city' cityIds := by
  unfold projectCity
  rw [if_neg hout, if_neg hout, howner]

theorem armyFields_congr {allied allied' : List String} (h : ∀ other, other ∈ allied ↔ other ∈ allied')
    (army : ArmyState) : armyFields army allied = armyFields army allied' := by
  unfold armyFields
  simp only [h army.owner]

/-- Of an army that is not the coalition's only the sighting is shown. -/
theorem armyFields_of_sighting {allied : List String} {army army' : ArmyState} (hout : army.owner ∉ allied)
    (hsighting : army.sighting = army'.sighting) : armyFields army allied = armyFields army' allied := by
  simp only [ArmyState.sighting, ArmySighting.mk.injEq] at hsighting
  obtain ⟨hid, howner, hlocation, hdestination, hticks, hpath⟩ := hsighting
  have hroute : army.path.map (fun _ => Veiled.unknown) = army'.path.map fun _ => (Veiled.unknown : Veiled (List String)) := by
    cases hfirst : army.path with
    | none => cases hsecond : army'.path with
      | none => rfl
      | some _ => rw [hfirst, hsecond] at hpath; cases hpath
    | some _ => cases hsecond : army'.path with
      | none => rw [hfirst, hsecond] at hpath; cases hpath
      | some _ => rfl
  unfold armyFields
  rw [if_neg hout, if_neg (howner ▸ hout), hid, howner, hlocation, hdestination, hticks, hroute]

@[simp] theorem armyFields_id (army : ArmyState) (allied : List String) : (armyFields army allied).id = army.id := by
  unfold armyFields
  split
  · rfl
  · rfl

theorem armyIsVisible_iff {army : ArmyState} {allied cityIds : List String} {mapDefinition : MapDefinition} :
    armyIsVisible army allied (visibleCityIds mapDefinition cityIds) ↔
      army.owner ∈ allied ∨ sighted allied cityIds mapDefinition army := by
  unfold armyIsVisible sighted
  simp only [decide_eq_true_eq, Option.any_eq_true, mem_visibleCityIds]
  by_cases hown : army.owner ∈ allied
  · simp [hown]
  · simp only [hown, false_or, not_false_eq_true, true_and]
    constructor
    · rintro (⟨cityId, hplace, hsight⟩ | ⟨cityId, hplace, hsight⟩)
      · exact ⟨cityId, hsight, Or.inl hplace⟩
      · exact ⟨cityId, hsight, Or.inr hplace⟩
    · rintro ⟨cityId, hsight, hplace | hplace⟩
      · exact Or.inl ⟨cityId, hplace, hsight⟩
      · exact Or.inr ⟨cityId, hplace, hsight⟩

section Agreement

variable {mapDefinition : MapDefinition} {playerId : String} {first second : MatchRecord}

theorem coalitionOf_eq {state : MatchState} {player : PlayerState} (h : state.players.get? playerId = some player) :
    coalitionOf state playerId = alliedPlayerIds state playerId player := by
  unfold coalitionOf
  rw [h]
  rfl

theorem mem_coalitionOf {state : MatchState} {other : String} :
    other ∈ coalitionOf state playerId ↔
      ∃ worn, (state.players.get? playerId).map (·.allianceId) = some worn ∧
        ((worn = none ∧ other = playerId) ∨
          ∃ allianceId, worn = some allianceId ∧
            (state.players.get? other).map (·.allianceId) = some (some allianceId)) := by
  unfold coalitionOf
  cases state.players.get? playerId with
  | none => simp
  | some player =>
      rw [Option.map_some, Option.getD_some, mem_alliedPlayerIds, Option.map_some]
      simp only [Option.some.injEq, exists_eq_left']

theorem SameKnowledge.coalition (h : SameKnowledge mapDefinition playerId first second) (other : String) :
    other ∈ coalitionOf first.state playerId ↔ other ∈ coalitionOf second.state playerId := by
  rw [mem_coalitionOf, mem_coalitionOf]
  simp only [h.allianceIds]

theorem SameKnowledge.cityIds (h : SameKnowledge mapDefinition playerId first second) (cityId : String) :
    cityId ∈ fullVisibilityCityIds first.state (coalitionOf first.state playerId) ↔
      cityId ∈ fullVisibilityCityIds second.state (coalitionOf second.state playerId) := by
  simp only [mem_fullVisibilityCityIds, Option.any_eq_true, decide_eq_true_eq, ← h.coalition]
  constructor
  · rintro ⟨city, hget, owner, howner, hown⟩
    exact ⟨city, (h.ownCities cityId city (by simpa [howner] using hown)).1 hget, owner, howner, hown⟩
  · rintro ⟨city, hget, owner, howner, hown⟩
    exact ⟨city, (h.ownCities cityId city (by simpa [howner] using hown)).2 hget, owner, howner, hown⟩

theorem inSight_congr {cityIds cityIds' : List String} (h : ∀ cityId, cityId ∈ cityIds ↔ cityId ∈ cityIds') (cityId : String) :
    inSight cityIds mapDefinition cityId ↔ inSight cityIds' mapDefinition cityId := by
  unfold inSight adjacentCityIds
  simp only [List.mem_flatMap, h]

theorem SameKnowledge.visible (h : SameKnowledge mapDefinition playerId first second) (cityId : String) :
    cityId ∈ visibleCityIds mapDefinition
        (fullVisibilityCityIds first.state (coalitionOf first.state playerId)) ↔
      cityId ∈ visibleCityIds mapDefinition
        (fullVisibilityCityIds second.state (coalitionOf second.state playerId)) :=
  mem_visibleCityIds.trans ((inSight_congr h.cityIds cityId).trans mem_visibleCityIds.symm)

theorem SameKnowledge.visible_sorted (h : SameKnowledge mapDefinition playerId first second) :
    (visibleCityIds mapDefinition (fullVisibilityCityIds first.state (coalitionOf first.state playerId))).insertionSort
        (· ≤ ·) =
      (visibleCityIds mapDefinition
        (fullVisibilityCityIds second.state (coalitionOf second.state playerId))).insertionSort (· ≤ ·) := by
  apply insertionSort_key_eq (g := id)
  · rw [List.perm_ext_iff_of_nodup (visibleCityIds_nodup _ _) (visibleCityIds_nodup _ _)]
    exact h.visible
  · rw [List.map_id]
    exact visibleCityIds_nodup _ _

theorem SameKnowledge.cities (h : SameKnowledge mapDefinition playerId first second) :
    projectedCities first.state (fullVisibilityCityIds first.state (coalitionOf first.state playerId))
        (visibleCityIds mapDefinition (fullVisibilityCityIds first.state (coalitionOf first.state playerId))) =
      projectedCities second.state (fullVisibilityCityIds second.state (coalitionOf second.state playerId))
        (visibleCityIds mapDefinition (fullVisibilityCityIds second.state (coalitionOf second.state playerId))) := by
  unfold projectedCities
  rw [← h.visible_sorted]
  congr 1
  apply List.filterMap_congr
  intro cityId hvisible
  rw [List.mem_insertionSort, mem_visibleCityIds] at hvisible
  by_cases hown : cityId ∈ fullVisibilityCityIds first.state (coalitionOf first.state playerId)
  · obtain ⟨city, hget, howner⟩ := mem_fullVisibilityCityIds.1 hown
    rw [hget, (h.ownCities cityId city howner).1 hget, Option.map_some, Option.map_some,
      projectCity_congr h.cityIds]
  · have hadjacent := hvisible.resolve_left hown
    rw [fullVisibilityCityIds_eq] at hadjacent
    have howner := h.adjacentOwners cityId hadjacent
    cases hfirst : first.state.cities.get? cityId with
    | none =>
        rw [hfirst, Option.map_none] at howner
        rw [Option.map_eq_none_iff.1 howner.symm]
        rfl
    | some city =>
        rw [hfirst, Option.map_some] at howner
        obtain ⟨city', hsecond, howner'⟩ := Option.map_eq_some_iff.1 howner.symm
        rw [hsecond, Option.map_some, Option.map_some, ← projectCity_congr h.cityIds,
          projectCity_of_owner hown howner'.symm]

/-- What is shown of an army in one list is shown of an army in the other. -/
theorem armyFields_transfer {coalition cityIds : List String} {armies armies' : List ArmyState}
    (hown : ∀ army, army.owner ∈ coalition → army ∈ armies → army ∈ armies')
    (hsighted : ∀ sighting, (∃ army ∈ armies, sighted coalition cityIds mapDefinition army ∧ army.sighting = sighting) →
      ∃ army ∈ armies', sighted coalition cityIds mapDefinition army ∧ army.sighting = sighting)
    {fields : VisibleArmyState}
    (h : ∃ army ∈ armies, armyIsVisible army coalition (visibleCityIds mapDefinition cityIds) ∧
      armyFields army coalition = fields) :
    ∃ army ∈ armies', armyIsVisible army coalition (visibleCityIds mapDefinition cityIds) ∧
      armyFields army coalition = fields := by
  obtain ⟨army, harmy, hvisible, hfields⟩ := h
  rcases armyIsVisible_iff.1 hvisible with hcoalition | hseen
  · exact ⟨army, hown army hcoalition harmy, hvisible, hfields⟩
  · obtain ⟨army', harmy', hseen', hsighting⟩ := hsighted _ ⟨army, harmy, hseen, rfl⟩
    refine ⟨army', harmy', armyIsVisible_iff.2 (Or.inr hseen'), ?_⟩
    rw [← hfields]
    exact armyFields_of_sighting hseen'.1 hsighting

theorem projectedArmies_eq_mapM (state : MatchState) (allied visibleIds : List String) :
    projectedArmies state allied visibleIds =
      (((state.armies.insertionSort fun first second => first.id ≤ second.id).filter fun army =>
        armyIsVisible army allied visibleIds).map fun army => armyFields army allied).mapM
          VisibleArmyState.modelValidate := by
  rw [List.mapM_map]
  rfl

theorem SameKnowledge.armies (h : SameKnowledge mapDefinition playerId first second)
    (hfirst : (first.state.armies.map (·.id)).Nodup) (hsecond : (second.state.armies.map (·.id)).Nodup) :
    projectedArmies first.state (coalitionOf first.state playerId)
        (visibleCityIds mapDefinition (fullVisibilityCityIds first.state (coalitionOf first.state playerId))) =
      projectedArmies second.state (coalitionOf second.state playerId)
        (visibleCityIds mapDefinition (fullVisibilityCityIds second.state (coalitionOf second.state playerId))) := by
  have hvisible : ∀ army, armyIsVisible army (coalitionOf second.state playerId)
        (visibleCityIds mapDefinition (fullVisibilityCityIds second.state (coalitionOf second.state playerId))) =
      armyIsVisible army (coalitionOf first.state playerId)
        (visibleCityIds mapDefinition (fullVisibilityCityIds first.state (coalitionOf first.state playerId))) := by
    intro army
    unfold armyIsVisible
    simp only [← h.coalition, ← h.visible]
  rw [projectedArmies_eq_mapM, projectedArmies_eq_mapM]
  congr 1
  simp only [hvisible, fun army => armyFields_congr (fun other => (h.coalition other).symm) army]
  apply listing_eq (k := VisibleArmyState.id) (fun army => armyFields_id army _) hfirst hsecond
  intro fields
  rw [fullVisibilityCityIds_eq]
  exact ⟨armyFields_transfer (fun army hown => (h.ownArmies army hown).1) fun sighting => (h.sightings sighting).1,
    armyFields_transfer (fun army hown => (h.ownArmies army hown).2) fun sighting => (h.sightings sighting).2⟩

theorem SameKnowledge.projection (h : SameKnowledge mapDefinition playerId first second)
    (hfirst : (first.state.armies.map (·.id)).Nodup) (hsecond : (second.state.armies.map (·.id)).Nodup)
    (matchId : String) {active : Option MapDefinition} (hmap : active.getD loadUk1900Map = mapDefinition) :
    projectAgentState first.state playerId matchId active = projectAgentState second.state playerId matchId active := by
  have hworn := h.allianceIds playerId
  have hresources := h.resources
  cases hget : first.state.players.get? playerId with
  | none =>
      rw [hget, Option.map_none] at hworn
      have hnone := Option.map_eq_none_iff.1 hworn.symm
      unfold projectAgentState
      rw [hget, hnone]
  | some player =>
      rw [hget, Option.map_some] at hworn hresources
      obtain ⟨player', hget', hworn'⟩ := Option.map_eq_some_iff.1 hworn.symm
      rw [hget', Option.map_some, Option.some.injEq] at hresources
      have hmembers : (coalitionOf first.state playerId).insertionSort (· ≤ ·) =
          (coalitionOf second.state playerId).insertionSort (· ≤ ·) := by
        have hnodup : (coalitionOf first.state playerId).Nodup := coalitionOf_eq hget ▸ alliedPlayerIds_nodup _ _ _
        have hnodup' : (coalitionOf second.state playerId).Nodup := coalitionOf_eq hget' ▸ alliedPlayerIds_nodup _ _ _
        apply insertionSort_key_eq (g := id)
        · exact (List.perm_ext_iff_of_nodup hnodup hnodup').2 h.coalition
        · rw [List.map_id]
          exact hnodup
      unfold projectAgentState
      rw [hget, hget']
      dsimp only
      rw [hmap, ← coalitionOf_eq hget, ← coalitionOf_eq hget', h.armies hfirst hsecond, h.cities, h.tick, hresources,
        hworn', hmembers, h.victory]

/-! ### Talk and diplomacy -/

theorem listDirectMessages_eq (record : MatchRecord) :
    listDirectMessages (some record) playerId = directMessagesOf record playerId := by
  unfold listDirectMessages listVisibleMessages directMessagesOf isVisibleMessage
  rw [List.filter_filter]
  apply List.filter_congr
  intro message _
  cases message.channel <;> simp

theorem listBriefingMessages_direct (record : MatchRecord) (playerId : String) (sinceTick : Option Nat) :
    (listBriefingMessages (some record) playerId sinceTick).direct =
      (directMessagesOf record playerId).filter fun message => isSince sinceTick message.tick := by
  rw [← listDirectMessages_eq]
  unfold listBriefingMessages listDirectMessages
  dsimp only
  rw [List.filter_comm]

theorem listBriefingMessages_world (record : MatchRecord) (playerId : String) (sinceTick : Option Nat) :
    (listBriefingMessages (some record) playerId sinceTick).world =
      (listWorldMessages record).filter fun message => isSince sinceTick message.tick := by
  have hworld : (listVisibleMessages (some record) playerId).filter (fun message => message.channel = .world) =
      listWorldMessages record := by
    unfold listVisibleMessages listWorldMessages isVisibleMessage
    rw [List.filter_filter]
    apply List.filter_congr
    intro message _
    cases message.channel <;> simp
  unfold listBriefingMessages
  dsimp only
  rw [List.filter_comm, hworld]

theorem SameKnowledge.groupMessages (h : SameKnowledge mapDefinition playerId first second) (sinceTick : Option Nat) :
    listVisibleGroupChatMessages (some first) playerId sinceTick =
      listVisibleGroupChatMessages (some second) playerId sinceTick := by
  unfold listVisibleGroupChatMessages visibleGroupChats
  dsimp only
  rw [h.groupChats]

theorem SameKnowledge.briefing (h : SameKnowledge mapDefinition playerId first second) (sinceTick : Option Nat) :
    listBriefingMessages (some first) playerId sinceTick = listBriefingMessages (some second) playerId sinceTick := by
  have hdirect := listBriefingMessages_direct first playerId sinceTick
  rw [h.directMessages, ← listBriefingMessages_direct] at hdirect
  have hworld := listBriefingMessages_world first playerId sinceTick
  rw [h.worldMessages, ← listBriefingMessages_world second playerId] at hworld
  exact AgentBriefingMessageBuckets.ext hdirect (h.groupMessages sinceTick) hworld

/-- Who wears which alliance, and the tick, are all that derived alliances are made of. -/
theorem deriveAlliancesFromState_congr {state state' : MatchState} (htick : state.tick = state'.tick)
    (hworn : ∀ other, (state.players.get? other).map (·.allianceId) = (state'.players.get? other).map (·.allianceId)) :
    deriveAlliancesFromState state = deriveAlliancesFromState state' := by
  have hpairs : (state.players.entries.filterMap fun entry =>
      entry.2.allianceId.map fun allianceId => (allianceId, entry.1)).Perm
        (state'.players.entries.filterMap fun entry =>
          entry.2.allianceId.map fun allianceId => (allianceId, entry.1)) := by
    have hentries : (state.players.mapVals fun _ player => player.allianceId).entries.Perm
        (state'.players.mapVals fun _ player => player.allianceId).entries :=
      OrdDict.entries_perm fun other => by rw [OrdDict.get?_mapVals, OrdDict.get?_mapVals, hworn]
    have hworn := hentries.filterMap fun entry => entry.2.map fun allianceId => (allianceId, entry.1)
    simpa only [OrdDict.mapVals, List.filterMap_map, Function.comp_def] using hworn
  have hsorted := OrdDict.sorted_entries_eq (OrdDict.get?_group_perm hpairs)
  rw [OrdDict.map_sorted_entries, OrdDict.map_sorted_entries] at hsorted
  have hderived := congrArg (List.map fun entry : String × List String =>
    ({ allianceId := entry.1
       name := entry.1
       leaderId := entry.2.headD ""
       formedTick := state.tick
       members := entry.2.map fun memberId => ⟨memberId, state.tick⟩ } : MatchAlliance)) hsorted
  rw [List.map_map, List.map_map] at hderived
  unfold deriveAlliancesFromState
  rw [← htick]
  exact hderived

theorem SameKnowledge.allianceList (h : SameKnowledge mapDefinition playerId first second) :
    listAlliances (some first) = listAlliances (some second) := by
  unfold listAlliances
  dsimp only
  rw [h.alliances, deriveAlliancesFromState_congr h.tick h.allianceIds]

theorem SameKnowledge.treatyList (h : SameKnowledge mapDefinition playerId first second) (sinceTick : Option Nat) :
    listTreaties (some first) sinceTick = listTreaties (some second) sinceTick := by
  unfold listTreaties
  dsimp only
  rw [h.treaties]

theorem SameKnowledge.envelope (h : SameKnowledge loadUk1900Map playerId first second)
    (hfirst : (first.state.armies.map (·.id)).Nodup) (hsecond : (second.state.armies.map (·.id)).Nodup)
    {matchId : String} {registry registry' : InMemoryMatchRegistry} (hget : registry.getMatch matchId = some first)
    (hget' : registry'.getMatch matchId = some second) :
    buildMatchRealtimeEnvelope registry matchId .player (some playerId) =
      buildMatchRealtimeEnvelope registry' matchId .player (some playerId) := by
  have hchats : listVisibleGroupChats (some first) playerId = listVisibleGroupChats (some second) playerId := by
    unfold listVisibleGroupChats visibleGroupChats
    dsimp only
    rw [h.groupChats]
  unfold buildMatchRealtimeEnvelope
  rw [hget, hget']
  dsimp only [Option.getD_some]
  rw [h.projection hfirst hsecond matchId rfl, h.worldMessages, listDirectMessages_eq, listDirectMessages_eq,
    h.directMessages, hchats, h.groupMessages none, h.treatyList none, h.allianceList]

end Agreement

/-! ### Redaction -/

def redactCity (coalition visibleIds : List String) (cityId : String) (city : CityState) : CityState :=
  if city.owner.any (· ∈ coalition) then city
  else
    { owner := if cityId ∈ visibleIds then city.owner else none
      population := 0
      resources := ⟨0, 0, 0⟩
      upgrades := ⟨0, 0, 0⟩
      garrison := 0
      buildingQueue := [] }

def redactArmy (coalition : List String) (army : ArmyState) : ArmyState :=
  if army.owner ∈ coalition then army
  else { army with troops := 1, path := army.path.map fun _ => [] }

def redactPlayer (playerId other : String) (player : PlayerState) : PlayerState :=
  if other = playerId then player
  else { player with resources := ⟨0, 0, 0⟩, citiesOwned := [], isEliminated := false }

/-- The record with everything struck out that the player may not know. -/
def redacted (mapDefinition : MapDefinition) (playerId : String) (record : MatchRecord) : MatchRecord :=
  let coalition := coalitionOf record.state playerId
  let visibleIds := visibleCityIds mapDefinition (cityIdsOf record.state coalition)
  { record with
    state :=
      { record.state with
        cities := record.state.cities.mapVals (redactCity coalition visibleIds)
        armies := (record.state.armies.filter fun army => armyIsVisible army coalition visibleIds).map (redactArmy coalition)
        players := record.state.players.mapVals (redactPlayer playerId) }
    orderSubmissions := []
    messages := record.messages.filter (isVisibleMessage playerId)
    groupChats := visibleGroupChats record playerId }

theorem redactPlayer_allianceId (playerId other : String) (player : PlayerState) :
    (redactPlayer playerId other player).allianceId = player.allianceId := by
  unfold redactPlayer
  split
  · rfl
  · rfl

theorem redactCity_own {coalition visibleIds : List String} {city : CityState} (h : city.owner.any (· ∈ coalition))
    (cityId : String) : redactCity coalition visibleIds cityId city = city := if_pos h

theorem redactCity_owner {coalition visibleIds : List String} {cityId : String} (hvisible : cityId ∈ visibleIds)
    (city : CityState) : (redactCity coalition visibleIds cityId city).owner = city.owner := by
  unfold redactCity
  split
  · rfl
  · rfl

/-- A city that is the coalition's after redaction was so before, and is untouched. -/
theorem redactCity_eq_self {coalition visibleIds : List String} {cityId : String} {city : CityState}
    (h : (redactCity coalition visibleIds cityId city).owner.any (· ∈ coalition)) :
    redactCity coalition visibleIds cityId city = city := by
  by_cases hown : city.owner.any (· ∈ coalition)
  · exact redactCity_own hown cityId
  · unfold redactCity at h
    rw [if_neg hown] at h
    dsimp only at h
    split at h
    · exact absurd h hown
    · simp at h

theorem redactArmy_own {coalition : List String} {army : ArmyState} (h : army.owner ∈ coalition) :
    redactArmy coalition army = army := if_pos h

@[simp] theorem redactArmy_owner (coalition : List String) (army : ArmyState) :
    (redactArmy coalition army).owner = army.owner := by
  unfold redactArmy
  split
  · rfl
  · rfl

@[simp] theorem redactArmy_sighting (coalition : List String) (army : ArmyState) :
    (redactArmy coalition army).sighting = army.sighting := by
  unfold redactArmy
  split
  · rfl
  · simp [ArmyState.sighting]

theorem sighted_redactArmy {coalition cityIds : List String} {mapDefinition : MapDefinition} {army : ArmyState} :
    sighted coalition cityIds mapDefinition (redactArmy coalition army) ↔ sighted coalition cityIds mapDefinition army := by
  have hsighting := redactArmy_sighting coalition army
  simp only [ArmyState.sighting, ArmySighting.mk.injEq] at hsighting
  obtain ⟨-, howner, hlocation, hdestination, -⟩ := hsighting
  unfold sighted
  rw [howner, hlocation, hdestination]

theorem redacted_ids_nodup (mapDefinition : MapDefinition) (playerId : String) {record : MatchRecord}
    (hdistinct : (record.state.armies.map (·.id)).Nodup) :
    ((redacted mapDefinition playerId record).state.armies.map (·.id)).Nodup := by
  unfold redacted
  dsimp only
  have hid : (ArmyState.id ∘ redactArmy (coalitionOf record.state playerId)) = ArmyState.id := by
    funext army
    exact congrArg ArmySighting.id (redactArmy_sighting _ army)
  rw [List.map_map, hid]
  exact hdistinct.sublist (List.filter_sublist.map _)

/-- A record and its redaction agree on what the player may know. -/
theorem sameKnowledge_redacted (mapDefinition : MapDefinition) (playerId : String) (record : MatchRecord) :
    SameKnowledge mapDefinition playerId record (redacted mapDefinition playerId record) where
  tick := rfl
  resources := by
    show _ = ((record.state.players.mapVals (redactPlayer playerId)).get? playerId).map _
    rw [OrdDict.get?_mapVals, Option.map_map]
    congr 1
    funext player
    exact (congrArg PlayerState.resources (if_pos rfl)).symm
  allianceIds := by
    intro other
    show _ = ((record.state.players.mapVals (redactPlayer playerId)).get? other).map _
    rw [OrdDict.get?_mapVals, Option.map_map]
    congr 1
    funext player
    exact (redactPlayer_allianceId playerId other player).symm
  victory := rfl
  treaties := rfl
  alliances := rfl
  ownCities := by
    intro cityId city hown
    show _ ↔ (record.state.cities.mapVals _).get? cityId = some city
    rw [OrdDict.get?_mapVals, Option.map_eq_some_iff]
    constructor
    · intro hget
      exact ⟨city, hget, redactCity_own hown cityId⟩
    · intro hget
      obtain ⟨before, hbefore, rfl⟩ := hget
      rw [redactCity_eq_self hown]
      exact hbefore
  adjacentOwners := by
    intro cityId hadjacent
    show _ = ((record.state.cities.mapVals _).get? cityId).map _
    rw [OrdDict.get?_mapVals, Option.map_map]
    congr 1
    funext city
    exact (redactCity_owner (mem_visibleCityIds.2 (Or.inr hadjacent)) city).symm
  ownArmies := by
    intro army hown
    show _ ↔ army ∈ (record.state.armies.filter _).map _
    rw [List.mem_map]
    constructor
    · intro harmy
      exact ⟨army, List.mem_filter.2 ⟨harmy, armyIsVisible_iff.2 (Or.inl hown)⟩, redactArmy_own hown⟩
    · intro hredacted
      obtain ⟨before, hbefore, rfl⟩ := hredacted
      rw [redactArmy_owner] at hown
      rw [redactArmy_own hown]
      exact (List.mem_filter.1 hbefore).1
  sightings := by
    intro sighting
    show _ ↔ ∃ army ∈ (record.state.armies.filter _).map _, _
    constructor
    · intro hseen
      obtain ⟨army, harmy, hsighted, hsighting⟩ := hseen
      refine ⟨redactArmy (coalitionOf record.state playerId) army, ?_, sighted_redactArmy.2 hsighted, ?_⟩
      · exact List.mem_map_of_mem (List.mem_filter.2 ⟨harmy, armyIsVisible_iff.2 (Or.inr hsighted)⟩)
      · rw [redactArmy_sighting, hsighting]
    · intro hseen
      obtain ⟨army, harmy, hsighted, hsighting⟩ := hseen
      obtain ⟨before, hbefore, rfl⟩ := List.mem_map.1 harmy
      rw [redactArmy_sighting] at hsighting
      exact ⟨before, (List.mem_filter.1 hbefore).1, sighted_redactArmy.1 hsighted, hsighting⟩
  worldMessages := by
    show _ = (record.messages.filter (isVisibleMessage playerId)).filter _
    rw [List.filter_filter]
    apply List.filter_congr
    intro message _
    cases hchannel : message.channel <;> simp [isVisibleMessage, hchannel]
  directMessages := by
    show _ = (record.messages.filter (isVisibleMessage playerId)).filter _
    rw [List.filter_filter]
    apply List.filter_congr
    intro message _
    cases hchannel : message.channel <;> simp [isVisibleMessage, hchannel]
  groupChats := by
    show _ = (record.groupChats.filter _).filter _
    rw [List.filter_filter]
    apply List.filter_congr
    intro groupChat _
    simp

/-- The projection is worked out from the redacted record alone. -/
theorem projectAgentState_redacted (mapDefinition : Option MapDefinition) (playerId matchId : String)
    (record : MatchRecord) (hdistinct : (record.state.armies.map (·.id)).Nodup) :
    projectAgentState (redacted (mapDefinition.getD loadUk1900Map) playerId record).state playerId matchId mapDefinition =
      projectAgentState record.state playerId matchId mapDefinition :=
  ((sameKnowledge_redacted (mapDefinition.getD loadUk1900Map) playerId record).projection hdistinct
    (redacted_ids_nodup _ _ hdistinct) matchId rfl).symm

/-! ### Noninterference -/

/-- A player cannot tell two records apart that agree on what the player may know. -/
theorem shown_alike (mapDefinition : Option MapDefinition) (playerId : String) (first second : MatchRecord)
    (hfirst : (first.state.armies.map (·.id)).Nodup) (hsecond : (second.state.armies.map (·.id)).Nodup)
    (hsame : SameKnowledge (mapDefinition.getD loadUk1900Map) playerId first second) :
    (∀ matchId, projectAgentState first.state playerId matchId mapDefinition =
      projectAgentState second.state playerId matchId mapDefinition) ∧
    (∀ sinceTick, listBriefingMessages (some first) playerId sinceTick =
      listBriefingMessages (some second) playerId sinceTick) ∧
    (mapDefinition = none → ∀ matchId registry registry',
      InMemoryMatchRegistry.getMatch registry matchId = some first →
      InMemoryMatchRegistry.getMatch registry' matchId = some second →
      buildMatchRealtimeEnvelope registry matchId .player (some playerId) =
        buildMatchRealtimeEnvelope registry' matchId .player (some playerId)) := by
  refine ⟨fun matchId => hsame.projection hfirst hsecond matchId rfl, hsame.briefing, ?_⟩
  intro hmap matchId registry registry' hget hget'
  rw [hmap] at hsame
  exact hsame.envelope hfirst hsecond hget hget'

/-- In the duel a player is shown what is left of the duel when the other's city and army are struck out. -/
theorem shown_alike_duel :
    (duelRecord.state.armies.map (·.id)).Nodup ∧
      ((redacted loadUk1900Map "p1" duelRecord).state.armies.map (·.id)).Nodup ∧
      redacted loadUk1900Map "p1" duelRecord ≠ duelRecord ∧
      ∀ matchId, projectAgentState duelRecord.state "p1" matchId none =
        projectAgentState (redacted loadUk1900Map "p1" duelRecord).state "p1" matchId none := by
  have hdistinct : (duelRecord.state.armies.map (·.id)).Nodup := by decide
  have hredacted := redacted_ids_nodup loadUk1900Map "p1" hdistinct
  refine ⟨hdistinct, hredacted, by decide +kernel, ?_⟩
  exact (shown_alike none "p1" duelRecord _ hdistinct hredacted (sameKnowledge_redacted loadUk1900Map "p1" duelRecord)).1

end IronCouncil
