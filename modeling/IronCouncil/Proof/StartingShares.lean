import IronCouncil.MatchInitialization
import Mathlib.Data.Finset.Card
import Mathlib.Data.List.Count

/-!
# Starting shares

A match without overrides starts with equal shares: the search for starting cities gives each player of the roster the same number of them.
-/

namespace IronCouncil

/-- The cities that a player owns. -/
def ownedCities (cityIds : List String) (ownerOf : String → Option String) (playerId : String) : Finset String :=
  cityIds.toFinset.filter fun cityId => ownerOf cityId = some playerId

theorem mem_ownedCities {cityIds : List String} {ownerOf : String → Option String} {playerId cityId : String} :
    cityId ∈ ownedCities cityIds ownerOf playerId ↔ cityId ∈ cityIds ∧ ownerOf cityId = some playerId := by
  unfold ownedCities
  rw [Finset.mem_filter, List.mem_toFinset]

section Shares

variable {cityIds : List String}

/-- The number of cities that a player has been given. -/
def StartingAssignments.share (cityIds : List String) (assignments : StartingAssignments) (playerId : String) : Nat :=
  (ownedCities cityIds assignments.assignedCityOwners.get? playerId).card

theorem share_assign {assignments : StartingAssignments} {cityId playerId : String} (hknown : cityId ∈ cityIds)
    (hfree : assignments.assignedCityOwners.get? cityId = none) (other : String) :
    (assignments.assign cityId playerId).share cityIds other =
      assignments.share cityIds other + if playerId = other then 1 else 0 := by
  have hget : ∀ city, (assignments.assign cityId playerId).assignedCityOwners.get? city =
      if city = cityId then some playerId else assignments.assignedCityOwners.get? city := fun city =>
    OrdDict.get?_insert _ _ _ _
  unfold StartingAssignments.share
  by_cases hother : playerId = other
  · have hgiven : ownedCities cityIds (assignments.assign cityId playerId).assignedCityOwners.get? other =
        insert cityId (ownedCities cityIds assignments.assignedCityOwners.get? other) := by
      ext city
      rw [Finset.mem_insert, mem_ownedCities, mem_ownedCities, hget]
      by_cases hcity : city = cityId
      · simp [hcity, hknown, hother]
      · simp [hcity]
    rw [hgiven, if_pos hother, Finset.card_insert_of_notMem]
    rw [mem_ownedCities, hfree]
    simp
  · have hkept : ownedCities cityIds (assignments.assign cityId playerId).assignedCityOwners.get? other =
        ownedCities cityIds assignments.assignedCityOwners.get? other := by
      ext city
      rw [mem_ownedCities, mem_ownedCities, hget]
      by_cases hcity : city = cityId
      · simp [hcity, hfree, hother]
      · simp [hcity]
    rw [hkept, if_neg hother, Nat.add_zero]

/-- Each time a player stands in the order it gets one city. -/
theorem share_assignRemainingCities {legal : List String} (hlegal : ∀ cityId ∈ legal, cityId ∈ cityIds)
    {adjacency : OrdDict String (List String)} {assignmentOrder : List String}
    {assignments assigned : StartingAssignments}
    (h : assignRemainingCities legal adjacency assignmentOrder assignments = (true, assigned)) (playerId : String) :
    assigned.share cityIds playerId = assignments.share cityIds playerId + assignmentOrder.count playerId := by
  have hfills := fills_of_assignRemainingCities h
  clear h
  induction hfills with
  | done assignments => rfl
  | place hcity hcan _ ih =>
      have hfree : _ = none := (of_decide_eq_true hcan).1
      rw [ih, show (startingMoves adjacency).place = fun assignments playerId cityId => assignments.assign cityId playerId
        from rfl, share_assign (hlegal _ hcity) hfree, List.count_cons]
      simp only [beq_iff_eq]
      omega

/-- Entries without overrides are seated with no cities. -/
theorem assignRosterEntries_eq_ok {canonicalMap : MapDefinition} {adjacency : OrdDict String (List String)}
    {startingCitiesPerPlayer : Nat} {roster : List MatchRosterEntry}
    (hroster : ∀ entry ∈ roster, entry.startingCityIds = none) {assignments : StartingAssignments}
    (h : roster.foldlM (assignRosterEntry canonicalMap adjacency startingCitiesPerPlayer)
      ⟨OrdDict.empty, OrdDict.empty⟩ = .ok assignments) :
    assignments.assignedCityOwners = OrdDict.empty ∧
      ∀ playerId cities, assignments.assignmentsByPlayer.get? playerId = some cities → cities = [] := by
  refine Run.invariant_foldlM_of_admitted (C := fun entry : MatchRosterEntry => entry.startingCityIds = none)
    (I := fun assignments : StartingAssignments => assignments.assignedCityOwners = OrdDict.empty ∧
      ∀ playerId cities, assignments.assignmentsByPlayer.get? playerId = some cities → cities = []) ?_ hroster h ?_
  · rintro before entry after hentry hstep ⟨howners, hcities⟩
    unfold assignRosterEntry at hstep
    dsimp only at hstep
    split at hstep
    · cases hstep
    · rw [hentry] at hstep
      cases hstep
      refine ⟨howners, ?_⟩
      intro playerId cities hget
      dsimp only at hget
      rw [OrdDict.get?_insert] at hget
      split at hget
      · cases hget
        rfl
      · exact hcities playerId cities hget
  · refine ⟨rfl, ?_⟩
    intro playerId cities hget
    rw [OrdDict.get?_empty] at hget
    cases hget

/-- The order names a player once for each city it lacks. -/
theorem count_buildAssignmentOrder {roster : List MatchRosterEntry} (startingCitiesPerPlayer : Nat)
    (assignmentsByPlayer : OrdDict String (List String)) (hnodup : (roster.map (·.playerId)).Nodup) {playerId : String}
    (hplayer : playerId ∈ roster.map (·.playerId)) :
    (buildAssignmentOrder roster startingCitiesPerPlayer assignmentsByPlayer).count playerId =
      startingCitiesPerPlayer - ((assignmentsByPlayer.get? playerId).getD []).length := by
  have hslot : ∀ slotIndex, ((roster.filter fun entry =>
      ((assignmentsByPlayer.get? entry.playerId).getD []).length ≤ slotIndex).map (·.playerId)).count playerId =
        if ((assignmentsByPlayer.get? playerId).getD []).length ≤ slotIndex then 1 else 0 := by
    intro slotIndex
    have hfilter : (roster.filter fun entry =>
        ((assignmentsByPlayer.get? entry.playerId).getD []).length ≤ slotIndex).map (·.playerId) =
          (roster.map (·.playerId)).filter fun playerId =>
            ((assignmentsByPlayer.get? playerId).getD []).length ≤ slotIndex := by
      rw [List.filter_map]
      rfl
    rw [hfilter]
    split
    · rename_i hle
      rw [List.count_filter (by simpa using hle), List.count_eq_one_of_mem hnodup hplayer]
    · rename_i hle
      rw [List.count_eq_zero, List.mem_filter]
      simp [hle]
  unfold buildAssignmentOrder
  rw [List.count_flatMap]
  simp only [Function.comp_def, hslot]
  induction startingCitiesPerPlayer with
  | zero => simp
  | succ startingCitiesPerPlayer ih =>
      rw [List.range_succ, List.map_append, List.sum_append, ih]
      simp only [List.map_cons, List.map_nil, List.sum_singleton]
      split <;> omega

end Shares

theorem mem_cities_of_legal {mapDefinition : MapDefinition} {cityId : String}
    (h : cityId ∈ legalSpawnCityIds mapDefinition) : cityId ∈ mapDefinition.cities.keys := by
  unfold legalSpawnCityIds at h
  rw [List.mem_insertionSort] at h
  obtain ⟨entry, hentry, rfl⟩ := List.mem_map.1 h
  exact List.mem_map_of_mem (List.mem_filter.1 hentry).1

/-- Players without overrides all start with the same number of cities. -/
theorem share_assignStartingCities {config : MatchConfig} {roster : List MatchRosterEntry}
    {canonicalMap : MapDefinition} {assigned : StartingAssignments}
    (hroster : ∀ entry ∈ roster, entry.startingCityIds = none) (hnodup : (roster.map (·.playerId)).Nodup)
    (h : assignStartingCities config roster canonicalMap = .ok assigned) {playerId : String}
    (hplayer : playerId ∈ roster.map (·.playerId)) :
    assigned.share canonicalMap.cities.keys playerId = config.startingCitiesPerPlayer := by
  unfold assignStartingCities at h
  dsimp only at h
  split at h
  · cases h
  · rename_i assignments hseated
    obtain ⟨howners, hempty⟩ := assignRosterEntries_eq_ok hroster hseated
    split at h
    · cases h
    · split at h
      · cases h
      · rename_i remaining hremaining
        cases h
        rw [share_assignRemainingCities (fun _ => mem_cities_of_legal) hremaining,
          count_buildAssignmentOrder _ _ hnodup hplayer]
        have hnone : assignments.share canonicalMap.cities.keys playerId = 0 := by
          unfold StartingAssignments.share
          rw [howners, Finset.card_eq_zero, Finset.eq_empty_iff_forall_notMem]
          intro cityId hmem
          rw [mem_ownedCities, OrdDict.get?_empty] at hmem
          cases hmem.2
        have hlacks : (assignments.assignmentsByPlayer.get? playerId).getD [] = [] := by
          cases hget : assignments.assignmentsByPlayer.get? playerId with
          | none => rfl
          | some cities => exact hempty playerId cities hget
        rw [hnone, hlacks, List.length_nil, Nat.sub_zero, Nat.zero_add]

/-- A new match without overrides has no armies, and its players own equally many cities. -/
theorem initializeMatchState_shares {config : MatchConfig} {roster : List MatchRosterEntry}
    {mapDefinition : Option MapDefinition} {state : MatchState}
    (hroster : ∀ entry ∈ roster, entry.startingCityIds = none) (hnodup : (roster.map (·.playerId)).Nodup)
    (h : initializeMatchState config roster mapDefinition = .ok state) :
    state.armies = [] ∧ ∀ playerId ∈ roster.map (·.playerId),
      (ownedCities state.cities.keys state.cityOwner playerId).card = config.startingCitiesPerPlayer := by
  unfold initializeMatchState at h
  dsimp only at h
  split at h
  · cases h
  · split at h
    · cases h
    · cases hassign : assignStartingCities config roster (mapDefinition.getD loadUk1900Map) with
      | error error =>
          rw [hassign] at h
          cases h
      | ok assigned =>
          rw [hassign] at h
          cases h
          refine ⟨rfl, fun playerId hplayer => ?_⟩
          rw [← share_assignStartingCities hroster hnodup hassign hplayer]
          unfold StartingAssignments.share
          congr 1
          ext cityId
          have hkeys : (buildMatchState config roster (mapDefinition.getD loadUk1900Map) assigned).cities.keys =
              (mapDefinition.getD loadUk1900Map).cities.keys := OrdDict.keys_mapVals _ _
          rw [mem_ownedCities, mem_ownedCities, hkeys, MatchState.cityOwner_eq_some]
          apply and_congr_right
          intro hcity
          obtain ⟨cityDefinition, hdefinition⟩ := OrdDict.mem_keys.1 hcity
          unfold buildMatchState
          dsimp only
          rw [OrdDict.get?_mapVals, hdefinition]
          simp [buildCityState]

end IronCouncil
