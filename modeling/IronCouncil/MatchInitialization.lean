import IronCouncil.Base.Backtrack
import IronCouncil.Base.Graph
import IronCouncil.Base.Run
import IronCouncil.Data.Maps
import IronCouncil.Models.State
import Mathlib.Data.List.Sort
import Mathlib.Data.String.Basic

/-!
# Match initialization

The starting state of a match: every rostered player gets its starting cities, by override or by a backtracking search, and the same stock.
-/

namespace IronCouncil

def minStartingCityCount : Nat := 2
def maxStartingCityCount : Nat := 3
def defaultCityPopulation : Nat := 10
def defaultNeutralGarrison : Nat := 5
def defaultOwnedGarrison : Nat := 15
def primaryResourceYield : Int := 3
def secondaryResourceYield : Int := 1

structure MatchInitializationError where
  message : String
deriving DecidableEq, Repr

structure MatchConfig where
  victoryCityThreshold : Nat
  startingCitiesPerPlayer : Nat
  startingResources : ResourceState
deriving DecidableEq, Repr

structure MatchRosterEntry where
  playerId : String
  startingCityIds : Option (List String)
deriving DecidableEq, Repr

def buildAdjacencyLookup (mapDefinition : MapDefinition) : OrdDict String (List String) :=
  mapDefinition.edges.foldl
    (fun adjacency edge => (adjacency.modify edge.cityA (List.insert edge.cityB)).modify edge.cityB
      (List.insert edge.cityA))
    (mapDefinition.cities.mapVals fun _ _ => [])

def legalSpawnCityIds (mapDefinition : MapDefinition) : List String :=
  ((mapDefinition.cities.entries.filter fun entry => entry.2.spawnAllowed ∧ entry.2.region ≠ "Ireland").map
    Prod.fst).insertionSort (· ≤ ·)

/-- Which cities each player has been given, and the owner of each given city. -/
structure StartingAssignments where
  assignmentsByPlayer : OrdDict String (List String)
  assignedCityOwners : OrdDict String String
deriving DecidableEq

def StartingAssignments.assign (assignments : StartingAssignments) (cityId playerId : String) :
    StartingAssignments where
  assignmentsByPlayer := assignments.assignmentsByPlayer.modify playerId (· ++ [cityId])
  assignedCityOwners := assignments.assignedCityOwners.insert cityId playerId

def StartingAssignments.unassign (assignments : StartingAssignments) (cityId playerId : String) :
    StartingAssignments where
  assignmentsByPlayer := assignments.assignmentsByPlayer.modify playerId List.dropLast
  assignedCityOwners := assignments.assignedCityOwners.erase cityId

/-- The neighbours of a city that another player has. -/
def foreignNeighbours (adjacency : OrdDict String (List String)) (assignedCityOwners : OrdDict String String)
    (cityId playerId : String) : List (String × String) :=
  ((adjacency.get? cityId).getD []).filterMap fun adjacentCityId =>
    (assignedCityOwners.get? adjacentCityId).bind fun adjacentOwner =>
      if adjacentOwner = playerId then none else some (adjacentCityId, adjacentOwner)

def canAssignCity (adjacency : OrdDict String (List String)) (assignedCityOwners : OrdDict String String)
    (cityId playerId : String) : Bool :=
  assignedCityOwners.get? cityId = none ∧ foreignNeighbours adjacency assignedCityOwners cityId playerId = []

def validateStartingCity (canonicalMap : MapDefinition) (adjacency : OrdDict String (List String))
    (assignedCityOwners : OrdDict String String) (cityId playerId : String) :
    Except MatchInitializationError Unit :=
  match canonicalMap.cities.get? cityId with
  | none => .error
      ⟨s!"starting city '{cityId}' for player '{playerId}' does not exist on map '{canonicalMap.mapId}'"⟩
  | some cityDefinition =>
      if cityDefinition.region = "Ireland" then
        .error ⟨s!"starting city '{cityId}' is not a legal mainland spawn city"⟩
      else if ¬cityDefinition.spawnAllowed then .error ⟨s!"starting city '{cityId}' is not a legal spawn city"⟩
      else if assignedCityOwners.get? cityId ≠ none then
        .error ⟨s!"starting city '{cityId}' is assigned to multiple players"⟩
      else
        match foreignNeighbours adjacency assignedCityOwners cityId playerId with
        | [] => .ok ()
        | (adjacentCityId, adjacentOwner) :: _ => .error
            ⟨s!"starting city '{cityId}' for player '{playerId}' is adjacent to '{adjacentCityId}' owned by '{adjacentOwner}'"⟩

/-- One city of an override. The second component is what the entry has listed before it. -/
def assignOverrideCity (canonicalMap : MapDefinition) (adjacency : OrdDict String (List String)) (playerId : String)
    (progress : StartingAssignments × List String) (cityId : String) :
    Except MatchInitializationError (StartingAssignments × List String) :=
  if cityId ∈ progress.2 then
    .error ⟨s!"player '{playerId}' includes duplicate starting city '{cityId}'"⟩
  else
    match validateStartingCity canonicalMap adjacency progress.1.assignedCityOwners cityId playerId with
    | .error error => .error error
    | .ok () => .ok (progress.1.assign cityId playerId, cityId :: progress.2)

def assignRosterEntry (canonicalMap : MapDefinition) (adjacency : OrdDict String (List String))
    (startingCitiesPerPlayer : Nat) (assignments : StartingAssignments) (rosterEntry : MatchRosterEntry) :
    Except MatchInitializationError StartingAssignments :=
  if rosterEntry.playerId ∈ assignments.assignmentsByPlayer.keys then
    .error ⟨s!"player '{rosterEntry.playerId}' appears more than once in the roster"⟩
  else
    let seated : StartingAssignments :=
      { assignments with assignmentsByPlayer := assignments.assignmentsByPlayer.insert rosterEntry.playerId [] }
    match rosterEntry.startingCityIds with
    | none => .ok seated
    | some startingCityIds =>
        if startingCityIds.length ≠ startingCitiesPerPlayer then
          .error ⟨s!"player '{rosterEntry.playerId}' must declare exactly {startingCitiesPerPlayer} starting cities when using overrides"⟩
        else
          (startingCityIds.foldlM (assignOverrideCity canonicalMap adjacency rosterEntry.playerId) (seated, [])).map
            Prod.fst

def buildAssignmentOrder (roster : List MatchRosterEntry) (startingCitiesPerPlayer : Nat)
    (assignmentsByPlayer : OrdDict String (List String)) : List String :=
  (List.range startingCitiesPerPlayer).flatMap fun slotIndex =>
    (roster.filter fun rosterEntry =>
      ((assignmentsByPlayer.get? rosterEntry.playerId).getD []).length ≤ slotIndex).map (·.playerId)

/-- Give the players of the order a city each. A city that leads nowhere is taken back and the next one is tried. -/
def assignRemainingCities (legalSpawnCityIds : List String) (adjacency : OrdDict String (List String)) :
    List String → StartingAssignments → Bool × StartingAssignments
  | [], assignments => (true, assignments)
  | playerId :: assignmentOrder, assignments =>
      legalSpawnCityIds.foldl
        (fun progress cityId =>
          if progress.1 then progress
          else if canAssignCity adjacency progress.2.assignedCityOwners cityId playerId then
            let tried :=
              assignRemainingCities legalSpawnCityIds adjacency assignmentOrder (progress.2.assign cityId playerId)
            if tried.1 then tried else (false, tried.2.unassign cityId playerId)
          else progress)
        (false, assignments)

def assignStartingCities (config : MatchConfig) (roster : List MatchRosterEntry) (canonicalMap : MapDefinition) :
    Except MatchInitializationError StartingAssignments :=
  let adjacency := buildAdjacencyLookup canonicalMap
  let legal := legalSpawnCityIds canonicalMap
  let cannotAssign : MatchInitializationError :=
    ⟨s!"cannot assign {config.startingCitiesPerPlayer} starting cities to {roster.length} players from {legal.length} legal spawn cities on map '{canonicalMap.mapId}'"⟩
  match roster.foldlM (assignRosterEntry canonicalMap adjacency config.startingCitiesPerPlayer)
      ⟨OrdDict.empty, OrdDict.empty⟩ with
  | .error error => .error error
  | .ok assignments =>
      if legal.length < roster.length * config.startingCitiesPerPlayer then .error cannotAssign
      else
        let assignmentOrder :=
          buildAssignmentOrder roster config.startingCitiesPerPlayer assignments.assignmentsByPlayer
        match assignRemainingCities legal adjacency assignmentOrder assignments with
        | (false, _) => .error cannotAssign
        | (true, assignments) => .ok assignments

def buildCityResourceState (primaryResource : ResourceType) : ResourceState where
  food := if primaryResource = .food then primaryResourceYield else secondaryResourceYield
  production := if primaryResource = .production then primaryResourceYield else secondaryResourceYield
  money := if primaryResource = .money then primaryResourceYield else secondaryResourceYield

def buildCityState (cityDefinition : CityDefinition) (owner : Option String) : CityState where
  owner := owner
  population := defaultCityPopulation
  resources := buildCityResourceState cityDefinition.primaryResource
  upgrades := ⟨0, 0, 0⟩
  garrison := if owner = none then defaultNeutralGarrison else defaultOwnedGarrison
  buildingQueue := []

def buildPlayerState (config : MatchConfig) (citiesOwned : List String) : PlayerState where
  resources := config.startingResources
  citiesOwned := citiesOwned
  allianceId := none
  isEliminated := false

def buildMatchState (config : MatchConfig) (roster : List MatchRosterEntry) (canonicalMap : MapDefinition)
    (assignments : StartingAssignments) : MatchState where
  tick := 0
  cities := canonicalMap.cities.mapVals fun cityId cityDefinition =>
    buildCityState cityDefinition (assignments.assignedCityOwners.get? cityId)
  armies := []
  players := OrdDict.ofList <| roster.map fun rosterEntry =>
    (rosterEntry.playerId,
      buildPlayerState config ((assignments.assignmentsByPlayer.get? rosterEntry.playerId).getD []))
  victory := ⟨none, 0, config.victoryCityThreshold, none⟩

def initializeMatchState (config : MatchConfig) (roster : List MatchRosterEntry)
    (mapDefinition : Option MapDefinition) : Except MatchInitializationError MatchState :=
  let canonicalMap := mapDefinition.getD loadUk1900Map
  if roster = [] then .error ⟨"roster must contain at least one player"⟩
  else if config.startingCitiesPerPlayer < minStartingCityCount ∨
      maxStartingCityCount < config.startingCitiesPerPlayer then
    .error ⟨s!"starting_cities_per_player must be between {minStartingCityCount} and {maxStartingCityCount}"⟩
  else (assignStartingCities config roster canonicalMap).map (buildMatchState config roster canonicalMap)

/-! ### The search for the remaining cities -/

theorem mem_of_mem_buildAssignmentOrder {roster : List MatchRosterEntry} {startingCitiesPerPlayer : Nat}
    {assignmentsByPlayer : OrdDict String (List String)} {playerId : String}
    (h : playerId ∈ buildAssignmentOrder roster startingCitiesPerPlayer assignmentsByPlayer) :
    playerId ∈ roster.map (·.playerId) := by
  obtain ⟨slotIndex, -, hslot⟩ := List.mem_flatMap.1 h
  obtain ⟨entry, hentry, rfl⟩ := List.mem_map.1 hslot
  exact List.mem_map_of_mem (List.mem_filter.1 hentry).1

theorem unassign_assign {assignments : StartingAssignments} {cityId : String} (playerId : String)
    (h : assignments.assignedCityOwners.get? cityId = none) :
    (assignments.assign cityId playerId).unassign cityId playerId = assignments := by
  have hplayer : (assignments.assign cityId playerId).assignmentsByPlayer.modify playerId List.dropLast =
      assignments.assignmentsByPlayer := OrdDict.modify_modify_cancel _ playerId fun cities => List.dropLast_concat
  have howner : (assignments.assign cityId playerId).assignedCityOwners.erase cityId =
      assignments.assignedCityOwners := OrdDict.erase_insert playerId h
  rw [StartingAssignments.unassign, hplayer, howner]

def startingMoves (adjacency : OrdDict String (List String)) : Backtrack StartingAssignments String String where
  can assignments playerId cityId := canAssignCity adjacency assignments.assignedCityOwners cityId playerId
  place assignments playerId cityId := assignments.assign cityId playerId
  undo assignments playerId cityId := assignments.unassign cityId playerId
  undo_place assignments playerId cityId h := by
    have hfree : assignments.assignedCityOwners.get? cityId = none := (of_decide_eq_true h).1
    exact unassign_assign playerId hfree

theorem assignRemainingCities_eq (legal : List String) (adjacency : OrdDict String (List String))
    (assignmentOrder : List String) (assignments : StartingAssignments) :
    assignRemainingCities legal adjacency assignmentOrder assignments =
      (startingMoves adjacency).inPlace legal assignmentOrder assignments := by
  induction assignmentOrder generalizing assignments with
  | nil => rfl
  | cons playerId assignmentOrder ih =>
      rw [assignRemainingCities, Backtrack.inPlace]
      congr 1
      funext progress cityId
      simp only [Backtrack.attempt, ih]
      rfl

theorem fills_of_assignRemainingCities {legal : List String} {adjacency : OrdDict String (List String)}
    {assignmentOrder : List String} {assignments assigned : StartingAssignments}
    (h : assignRemainingCities legal adjacency assignmentOrder assignments = (true, assigned)) :
    (startingMoves adjacency).Fills legal assignmentOrder assignments assigned :=
  Backtrack.inPlace_eq_true ((assignRemainingCities_eq legal adjacency assignmentOrder assignments).symm.trans h)

/-! ### Who owns the starting cities -/

section Owners

variable {S : String → Prop}

/-- The given cities are given to members of `S`. -/
def StartingAssignments.OwnedWithin (S : String → Prop) (assignments : StartingAssignments) : Prop :=
  ∀ cityId owner, assignments.assignedCityOwners.get? cityId = some owner → S owner

theorem ownedWithin_assign {assignments : StartingAssignments} (h : assignments.OwnedWithin S) (cityId : String)
    {playerId : String} (hplayer : S playerId) : (assignments.assign cityId playerId).OwnedWithin S := by
  intro city owner howner
  change (assignments.assignedCityOwners.insert cityId playerId).get? city = some owner at howner
  rw [OrdDict.get?_insert] at howner
  split at howner
  · cases howner
    exact hplayer
  · exact h city owner howner

theorem ownedWithin_assignRosterEntry {canonicalMap : MapDefinition} {adjacency : OrdDict String (List String)}
    {startingCitiesPerPlayer : Nat} {assignments assigned : StartingAssignments} {rosterEntry : MatchRosterEntry}
    (hplayer : S rosterEntry.playerId)
    (h : assignRosterEntry canonicalMap adjacency startingCitiesPerPlayer assignments rosterEntry = .ok assigned)
    (howned : assignments.OwnedWithin S) : assigned.OwnedWithin S := by
  unfold assignRosterEntry at h
  dsimp only at h
  split at h
  · cases h
  · split at h
    · cases h
      exact howned
    · rename_i startingCityIds _
      split at h
      · cases h
      · cases hfold : startingCityIds.foldlM (assignOverrideCity canonicalMap adjacency rosterEntry.playerId)
            (({ assignments with
                assignmentsByPlayer := assignments.assignmentsByPlayer.insert rosterEntry.playerId [] } :
              StartingAssignments), []) with
        | error error =>
            rw [hfold] at h
            cases h
        | ok progress =>
            rw [hfold] at h
            cases h
            refine Run.invariant_foldlM (I := fun progress => progress.1.OwnedWithin S) ?_ hfold howned
            intro before cityId after hstep hbefore
            unfold assignOverrideCity at hstep
            split at hstep
            · cases hstep
            · split at hstep
              · cases hstep
              · cases hstep
                exact ownedWithin_assign hbefore cityId hplayer

theorem ownedWithin_assignRemainingCities {legal : List String} {adjacency : OrdDict String (List String)}
    {assignmentOrder : List String} (horder : ∀ playerId ∈ assignmentOrder, S playerId)
    {assignments assigned : StartingAssignments}
    (h : assignRemainingCities legal adjacency assignmentOrder assignments = (true, assigned))
    (howned : assignments.OwnedWithin S) : assigned.OwnedWithin S := by
  refine (fills_of_assignRemainingCities h).invariant ?_ howned
  intro before playerId hplayer cityId _ _ hbefore
  exact ownedWithin_assign hbefore cityId (horder playerId hplayer)

theorem ownedWithin_assignStartingCities {config : MatchConfig} {roster : List MatchRosterEntry}
    {canonicalMap : MapDefinition} {assigned : StartingAssignments}
    (h : assignStartingCities config roster canonicalMap = .ok assigned) :
    assigned.OwnedWithin (· ∈ roster.map (·.playerId)) := by
  unfold assignStartingCities at h
  dsimp only at h
  split at h
  · cases h
  · rename_i assignments hroster
    have hseated : assignments.OwnedWithin (· ∈ roster.map (·.playerId)) := by
      refine Run.invariant_foldlM_of_admitted (C := fun entry : MatchRosterEntry => entry ∈ roster) ?_ (fun _ h => h)
        hroster ?_
      · intro before entry after hentry hstep hbefore
        exact ownedWithin_assignRosterEntry (List.mem_map_of_mem hentry) hstep hbefore
      · intro cityId owner howner
        rw [OrdDict.get?_empty] at howner
        cases howner
    split at h
    · cases h
    · split at h
      · cases h
      · rename_i remaining hremaining
        cases h
        refine ownedWithin_assignRemainingCities ?_ hremaining hseated
        exact fun playerId => mem_of_mem_buildAssignmentOrder

end Owners

/-- A new match is built from assignments whose cities all belong to players of the roster. -/
theorem initializeMatchState_eq_ok {config : MatchConfig} {roster : List MatchRosterEntry}
    {mapDefinition : Option MapDefinition} {state : MatchState}
    (h : initializeMatchState config roster mapDefinition = .ok state) :
    ∃ assignments : StartingAssignments, assignments.OwnedWithin (· ∈ roster.map (·.playerId)) ∧
      state = buildMatchState config roster (mapDefinition.getD loadUk1900Map) assignments := by
  unfold initializeMatchState at h
  dsimp only at h
  split at h
  · cases h
  · split at h
    · cases h
    · cases hassign : assignStartingCities config roster (mapDefinition.getD loadUk1900Map) with
      | error error =>
          rw [hassign] at h
          cases h
      | ok assignments =>
          rw [hassign] at h
          cases h
          exact ⟨assignments, ownedWithin_assignStartingCities hassign, rfl⟩

/-- A new match has a player for each roster entry, none of them allied. -/
theorem initializeMatchState_players {config : MatchConfig} {roster : List MatchRosterEntry}
    {mapDefinition : Option MapDefinition} {state : MatchState}
    (h : initializeMatchState config roster mapDefinition = .ok state) :
    ∃ citiesOwned : MatchRosterEntry → List String, state.players = OrdDict.ofList (roster.map fun rosterEntry =>
      (rosterEntry.playerId, buildPlayerState config (citiesOwned rosterEntry))) := by
  obtain ⟨assignments, -, rfl⟩ := initializeMatchState_eq_ok h
  exact ⟨fun rosterEntry => (assignments.assignmentsByPlayer.get? rosterEntry.playerId).getD [], rfl⟩

end IronCouncil
