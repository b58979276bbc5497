import IronCouncil.Proof.FogOfWar

/-!
# The shared vision of an alliance

A member of an alliance is shown what the members would be shown if each stood alone, put together: every city and every army that one of them would see, at the clearest level that one of them would see it. All members are shown the same.
-/

namespace IronCouncil

/-- The views' clearest: a full one if there is any. -/
def clearest {α : Type} (visibility : α → FogVisibility) (views : List α) : Option α :=
  (views.find? fun view => visibility view = .full).or views.head?

def membersOf (state : MatchState) (allianceId : String) : List String :=
  (state.players.entries.filter fun entry => entry.2.allianceId = some allianceId).map Prod.fst

/-- The state with the alliance disbanded. -/
def unallied (allianceId : String) (state : MatchState) : MatchState :=
  { state with
    players := state.players.mapVals fun _ player =>
      if player.allianceId = some allianceId then { player with allianceId := none } else player }

/-- The cities and armies are what the members would see alone, put together, and no army is listed twice. -/
structure UnionOfVisions (state : MatchState) (members : List String) (alone : String → AgentStateProjection)
    (cities : OrdDict String VisibleCityState) (visibleArmies : List VisibleArmyState) : Prop where
  cities : ∀ cityId, cities.get? cityId =
    clearest VisibleCityState.visibility (members.filterMap fun member => (alone member).cities.get? cityId)
  armies : ∀ view, view ∈ visibleArmies ↔ (∃ member ∈ members, view ∈ (alone member).visibleArmies) ∧
    (view.visibility = .partly → ∀ member ∈ members, ∀ other ∈ (alone member).visibleArmies,
      other.id = view.id → other.owner = view.owner → other.visibility = .partly)
  listed : (visibleArmies.map (·.id)).Sublist
    ((state.armies.insertionSort fun first second => first.id ≤ second.id).map (·.id))

theorem clearest_eq_some {α : Type} {visibility : α → FogVisibility} {views : List α} {view : α} (hview : view ∈ views)
    (hsame : ∀ other ∈ views, visibility other = visibility view → other = view)
    (hfull : ∀ other ∈ views, visibility other = .full → visibility view = .full) :
    clearest visibility views = some view := by
  unfold clearest
  cases hfind : views.find? fun view => visibility view = .full with
  | some other =>
      have hother : visibility other = .full := by simpa using List.find?_some hfind
      have hmem := List.mem_of_find?_eq_some hfind
      rw [Option.some_or, hsame other hmem (hother.trans (hfull other hmem hother).symm)]
  | none =>
      have hpartly : ∀ other ∈ views, visibility other = .partly := by
        intro other hother
        have hblurred := List.find?_eq_none.1 hfind other hother
        cases hlevel : visibility other with
        | full => simp [hlevel] at hblurred
        | partly => rfl
      obtain ⟨other, rest, rfl⟩ := List.exists_cons_of_ne_nil (List.ne_nil_of_mem hview)
      rw [Option.none_or, List.head?_cons]
      have hother := hpartly other List.mem_cons_self
      rw [hsame other List.mem_cons_self (hother.trans (hpartly view hview).symm)]

/-! ### Projections of a coalition -/

section Coalition

variable {state : MatchState} {mapDefinition : MapDefinition}

/-- The cities a coalition is shown. -/
def coalitionCities (state : MatchState) (mapDefinition : MapDefinition) (allied : List String) :
    OrdDict String VisibleCityState :=
  projectedCities state (fullVisibilityCityIds state allied)
    (visibleCityIds mapDefinition (fullVisibilityCityIds state allied))

/-- The armies a coalition is shown. -/
def coalitionArmies (state : MatchState) (mapDefinition : MapDefinition) (allied : List String) : List VisibleArmyState :=
  ((state.armies.insertionSort fun first second => first.id ≤ second.id).filter fun army =>
    armyIsVisible army allied (visibleCityIds mapDefinition (fullVisibilityCityIds state allied))).map
      fun army => armyFields army allied

/-- What a player is shown of the state, given the coalition. -/
def coalitionProjection (state : MatchState) (playerId matchId : String) (mapDefinition : MapDefinition)
    (player : PlayerState) : AgentStateProjection where
  matchId := matchId
  tick := state.tick
  playerId := playerId
  resources := player.resources
  cities := coalitionCities state mapDefinition (alliedPlayerIds state playerId player)
  visibleArmies := coalitionArmies state mapDefinition (alliedPlayerIds state playerId player)
  allianceId := player.allianceId
  allianceMembers := (alliedPlayerIds state playerId player).insertionSort (· ≤ ·)
  victory := state.victory

theorem modelValidate_armyFields {army : ArmyState} (hvalid : army.FieldsValid) (allied : List String) :
    (armyFields army allied).modelValidate = .ok (armyFields army allied) := by
  obtain ⟨htroops, hticks, -⟩ := hvalid
  unfold VisibleArmyState.modelValidate
  rw [if_pos]
  unfold armyFields
  split
  · refine ⟨?_, hticks⟩
    intro hnone
    have hzero : army.troops = 0 := by simpa using hnone
    omega
  · exact ⟨by simp, hticks⟩

theorem mapM_eq_ok_map {α β ε : Type} {f : α → Except ε β} {g : α → β} {l : List α} (h : ∀ a ∈ l, f a = .ok (g a)) :
    l.mapM f = .ok (l.map g) := by
  induction l with
  | nil => rfl
  | cons a l ih =>
      rw [List.mapM_cons, h a List.mem_cons_self, ih fun b hb => h b (List.mem_cons_of_mem a hb)]
      rfl

/-- Every player of a valid state gets a projection. -/
theorem projectAgentState_eq_ok (hvalid : state.FieldsValid) {playerId : String} {player : PlayerState}
    (hplayer : state.players.get? playerId = some player) (matchId : String) (active : Option MapDefinition) :
    projectAgentState state playerId matchId active =
      .ok (coalitionProjection state playerId matchId (active.getD loadUk1900Map) player) := by
  have harmies : projectedArmies state (alliedPlayerIds state playerId player)
      (visibleCityIds (active.getD loadUk1900Map)
        (fullVisibilityCityIds state (alliedPlayerIds state playerId player))) =
      .ok (coalitionArmies state (active.getD loadUk1900Map) (alliedPlayerIds state playerId player)) := by
    apply mapM_eq_ok_map
    intro army harmy
    have hmem := (List.mem_insertionSort _).1 (List.mem_of_mem_filter harmy)
    exact modelValidate_armyFields (hvalid.2.1 army hmem) _
  unfold projectAgentState
  rw [hplayer]
  dsimp only
  rw [harmies]
  rfl

theorem mem_coalitionArmies {allied : List String} {view : VisibleArmyState} :
    view ∈ coalitionArmies state mapDefinition allied ↔ ∃ army ∈ state.armies,
      (army.owner ∈ allied ∨ sighted allied (fullVisibilityCityIds state allied) mapDefinition army) ∧
        armyFields army allied = view := by
  unfold coalitionArmies
  simp only [List.mem_map, List.mem_filter, List.mem_insertionSort, armyIsVisible_iff, and_assoc]

theorem get?_coalitionCities (allied : List String) (cityId : String) :
    (coalitionCities state mapDefinition allied).get? cityId =
      if cityId ∈ visibleCityIds mapDefinition (fullVisibilityCityIds state allied) then
        (state.cities.get? cityId).map fun city => projectCity cityId city (fullVisibilityCityIds state allied)
      else none := by
  have hshown : ∀ view, (coalitionCities state mapDefinition allied).get? cityId = some view →
      cityId ∈ visibleCityIds mapDefinition (fullVisibilityCityIds state allied) ∧
        (state.cities.get? cityId).map (fun city => projectCity cityId city (fullVisibilityCityIds state allied)) =
          some view := by
    intro view hview
    obtain ⟨shownId, hvisible, hshown⟩ := List.mem_filterMap.1 (OrdDict.mem_of_get?_ofList hview)
    obtain ⟨city, hcity, heq⟩ := Option.map_eq_some_iff.1 hshown
    obtain ⟨rfl, rfl⟩ := Prod.mk.inj heq
    rw [List.mem_insertionSort] at hvisible
    rw [hcity]
    exact ⟨hvisible, rfl⟩
  cases hget : (coalitionCities state mapDefinition allied).get? cityId with
  | some view =>
      obtain ⟨hvisible, hview⟩ := hshown view hget
      rw [if_pos hvisible, hview]
  | none =>
      split
      · rename_i hvisible
        cases hcity : state.cities.get? cityId with
        | none => rfl
        | some city =>
            rw [OrdDict.get?_eq_none] at hget
            exfalso
            apply hget
            unfold coalitionCities projectedCities
            rw [OrdDict.mem_keys_ofList]
            refine List.mem_map.2 ⟨(cityId, projectCity cityId city (fullVisibilityCityIds state allied)), ?_, rfl⟩
            refine List.mem_filterMap.2 ⟨cityId, (List.mem_insertionSort _).2 hvisible, ?_⟩
            rw [hcity]
            rfl
      · rfl

/-! ### Members together and alone -/

theorem mem_fullVisibilityCityIds_iff_exists (members : List String) {cityId : String} :
    cityId ∈ fullVisibilityCityIds state members ↔ ∃ member ∈ members, cityId ∈ fullVisibilityCityIds state [member] := by
  simp only [mem_fullVisibilityCityIds, Option.any_eq_true, decide_eq_true_eq, List.mem_singleton]
  constructor
  · intro h
    obtain ⟨city, hcity, owner, howner, hmember⟩ := h
    exact ⟨owner, hmember, city, hcity, owner, howner, rfl⟩
  · intro h
    obtain ⟨member, hmember, city, hcity, owner, howner, rfl⟩ := h
    exact ⟨city, hcity, owner, howner, hmember⟩

theorem inSight_iff_exists (members : List String) {cityId : String} :
    inSight (fullVisibilityCityIds state members) mapDefinition cityId ↔
      ∃ member ∈ members, inSight (fullVisibilityCityIds state [member]) mapDefinition cityId := by
  unfold inSight adjacentCityIds
  simp only [List.mem_flatMap, mem_fullVisibilityCityIds_iff_exists members]
  constructor
  · intro h
    rcases h with ⟨member, hmember, hown⟩ | ⟨neighbour, ⟨member, hmember, hown⟩, hadjacent⟩
    · exact ⟨member, hmember, Or.inl hown⟩
    · exact ⟨member, hmember, Or.inr ⟨neighbour, hown, hadjacent⟩⟩
  · intro h
    obtain ⟨member, hmember, hown | ⟨neighbour, hown, hadjacent⟩⟩ := h
    · exact Or.inl ⟨member, hmember, hown⟩
    · exact Or.inr ⟨neighbour, ⟨member, hmember, hown⟩, hadjacent⟩

theorem visible_iff_exists {members : List String} {army : ArmyState} :
    (army.owner ∈ members ∨ sighted members (fullVisibilityCityIds state members) mapDefinition army) ↔
      ∃ member ∈ members, army.owner ∈ [member] ∨
        sighted [member] (fullVisibilityCityIds state [member]) mapDefinition army := by
  unfold sighted
  simp only [inSight_iff_exists members, List.mem_singleton]
  constructor
  · intro h
    rcases h with hown | ⟨hout, cityId, ⟨member, hmember, hsight⟩, hplace⟩
    · exact ⟨army.owner, hown, Or.inl rfl⟩
    · refine ⟨member, hmember, Or.inr ⟨?_, cityId, hsight, hplace⟩⟩
      intro howner
      exact hout (howner ▸ hmember)
  · intro h
    obtain ⟨member, hmember, rfl | ⟨-, cityId, hsight, hplace⟩⟩ := h
    · exact Or.inl hmember
    · by_cases hown : army.owner ∈ members
      · exact Or.inl hown
      · exact Or.inr ⟨hown, cityId, ⟨member, hmember, hsight⟩, hplace⟩

/-- Two coalitions that agree on whether the owner is one of them are shown the same of an army. -/
theorem armyFields_of_owner {allied allied' : List String} {army : ArmyState}
    (h : army.owner ∈ allied ↔ army.owner ∈ allied') : armyFields army allied = armyFields army allied' := by
  unfold armyFields
  simp only [h]

theorem projectCity_of_mem_iff {cityIds cityIds' : List String} {cityId : String} (h : cityId ∈ cityIds ↔ cityId ∈ cityIds')
    (city : CityState) : projectCity cityId city cityIds = projectCity cityId city cityIds' := by
  unfold projectCity
  simp only [h]

theorem projectCity_visibility_eq_full {cityIds : List String} {cityId : String} (city : CityState) :
    (projectCity cityId city cityIds).visibility = .full ↔ cityId ∈ cityIds := by
  unfold projectCity
  split
  · simp [*]
  · simp [*]

theorem armyFields_visibility_eq_full {army : ArmyState} {allied : List String} :
    (armyFields army allied).visibility = .full ↔ army.owner ∈ allied := by
  unfold armyFields
  split
  · simp [*]
  · simp [*]

@[simp] theorem armyFields_owner (army : ArmyState) (allied : List String) : (armyFields army allied).owner = army.owner := by
  unfold armyFields
  split
  · rfl
  · rfl

theorem coalitionCities_union (members : List String) (cityId : String) :
    (coalitionCities state mapDefinition members).get? cityId = clearest VisibleCityState.visibility
      (members.filterMap fun member => (coalitionCities state mapDefinition [member]).get? cityId) := by
  have hsight : inSight (fullVisibilityCityIds state members) mapDefinition cityId ↔ _ := inSight_iff_exists members
  have hfull : cityId ∈ fullVisibilityCityIds state members ↔ _ := mem_fullVisibilityCityIds_iff_exists members
  rw [get?_coalitionCities]
  by_cases hvisible : cityId ∈ visibleCityIds mapDefinition (fullVisibilityCityIds state members)
  · rw [if_pos hvisible]
    cases hcity : state.cities.get? cityId with
    | none => simp [get?_coalitionCities, hcity, clearest]
    | some city =>
        -- What a member sees of the city alone.
        have halone : ∀ view,
            view ∈ members.filterMap (fun member => (coalitionCities state mapDefinition [member]).get? cityId) ↔
              ∃ member ∈ members, inSight (fullVisibilityCityIds state [member]) mapDefinition cityId ∧
                projectCity cityId city (fullVisibilityCityIds state [member]) = view := by
          intro view
          simp only [List.mem_filterMap, get?_coalitionCities, hcity, Option.map_some, Option.ite_none_right_eq_some,
            Option.some.injEq, mem_visibleCityIds]
        rw [Option.map_some, eq_comm]
        apply clearest_eq_some
        · rw [halone]
          by_cases hown : cityId ∈ fullVisibilityCityIds state members
          · obtain ⟨member, hmember, hown'⟩ := hfull.1 hown
            exact ⟨member, hmember, Or.inl hown', projectCity_of_mem_iff (iff_of_true hown' hown) city⟩
          · obtain ⟨member, hmember, hsees⟩ := hsight.1 (mem_visibleCityIds.1 hvisible)
            have hown' : cityId ∉ fullVisibilityCityIds state [member] := fun h => hown (hfull.2 ⟨member, hmember, h⟩)
            exact ⟨member, hmember, hsees, projectCity_of_mem_iff (iff_of_false hown' hown) city⟩
        · intro other hother hlevel
          obtain ⟨member, hmember, -, rfl⟩ := (halone other).1 hother
          apply projectCity_of_mem_iff
          rw [← projectCity_visibility_eq_full city, hlevel, projectCity_visibility_eq_full]
        · intro other hother hlevel
          obtain ⟨member, hmember, -, rfl⟩ := (halone other).1 hother
          rw [projectCity_visibility_eq_full] at hlevel ⊢
          exact hfull.2 ⟨member, hmember, hlevel⟩
  · rw [if_neg hvisible]
    have hnone : members.filterMap (fun member => (coalitionCities state mapDefinition [member]).get? cityId) = [] := by
      rw [List.filterMap_eq_nil_iff]
      intro member hmember
      rw [get?_coalitionCities, if_neg]
      intro hsees
      exact hvisible (mem_visibleCityIds.2 (hsight.2 ⟨member, hmember, mem_visibleCityIds.1 hsees⟩))
    rw [hnone]
    rfl

theorem mem_coalitionArmies_union (members : List String) (view : VisibleArmyState) :
    view ∈ coalitionArmies state mapDefinition members ↔
      (∃ member ∈ members, view ∈ coalitionArmies state mapDefinition [member]) ∧
        (view.visibility = .partly → ∀ member ∈ members, ∀ other ∈ coalitionArmies state mapDefinition [member],
          other.id = view.id → other.owner = view.owner → other.visibility = .partly) := by
  have hlevel : ∀ {army : ArmyState} {allied : List String}, army.owner ∉ allied →
      (armyFields army allied).visibility = .partly := by
    intro army allied hout
    unfold armyFields
    rw [if_neg hout]
  constructor
  · intro hview
    obtain ⟨army, harmy, hvisible, rfl⟩ := mem_coalitionArmies.1 hview
    by_cases hown : army.owner ∈ members
    · constructor
      · refine ⟨army.owner, hown, mem_coalitionArmies.2 ⟨army, harmy, Or.inl (List.mem_singleton_self _), ?_⟩⟩
        exact armyFields_of_owner (iff_of_true (List.mem_singleton_self _) hown)
      · intro hpartly
        rw [armyFields_visibility_eq_full.2 hown] at hpartly
        cases hpartly
    · constructor
      · obtain ⟨member, hmember, hsees⟩ := visible_iff_exists.1 hvisible
        refine ⟨member, hmember, mem_coalitionArmies.2 ⟨army, harmy, hsees, ?_⟩⟩
        apply armyFields_of_owner
        refine iff_of_false ?_ hown
        intro howner
        exact hown (List.mem_singleton.1 howner ▸ hmember)
      · intro _ member hmember other hother _ howner
        obtain ⟨army', -, -, rfl⟩ := mem_coalitionArmies.1 hother
        apply hlevel
        rw [armyFields_owner, armyFields_owner] at howner
        intro hsame
        exact hown (howner ▸ List.mem_singleton.1 hsame ▸ hmember)
  · intro h
    obtain ⟨⟨member, hmember, hview⟩, hclearest⟩ := h
    obtain ⟨army, harmy, hsees, rfl⟩ := mem_coalitionArmies.1 hview
    refine mem_coalitionArmies.2 ⟨army, harmy, visible_iff_exists.2 ⟨member, hmember, hsees⟩, ?_⟩
    apply armyFields_of_owner
    by_cases hown : army.owner ∈ [member]
    · exact iff_of_true (List.mem_singleton.1 hown ▸ hmember) hown
    · refine iff_of_false ?_ hown
      intro hally
      -- The army's owner sees it in full.
      have hclear : armyFields army [army.owner] ∈ coalitionArmies state mapDefinition [army.owner] :=
        mem_coalitionArmies.2 ⟨army, harmy, Or.inl (List.mem_singleton_self _), rfl⟩
      have hblurred := hclearest (hlevel hown) army.owner hally _ hclear (by simp) (by simp)
      rw [armyFields_visibility_eq_full.2 (List.mem_singleton_self _)] at hblurred
      cases hblurred

end Coalition

/-! ### The alliance -/

theorem membersOf_eq {state : MatchState} {allianceId : String} {player : PlayerState}
    (hplayer : player.allianceId = some allianceId) (playerId : String) :
    alliedPlayerIds state playerId player = membersOf state allianceId := by
  unfold alliedPlayerIds membersOf
  rw [hplayer]

theorem mem_membersOf {state : MatchState} {allianceId playerId : String} :
    playerId ∈ membersOf state allianceId ↔
      ∃ player, state.players.get? playerId = some player ∧ player.allianceId = some allianceId := by
  unfold membersOf
  simp only [List.mem_map, List.mem_filter, decide_eq_true_eq, Prod.exists, exists_and_right, exists_eq_right,
    ← OrdDict.get?_eq_some]

theorem get?_unallied {state : MatchState} {allianceId playerId : String} {player : PlayerState}
    (hplayer : state.players.get? playerId = some player) (hallied : player.allianceId = some allianceId) :
    (unallied allianceId state).players.get? playerId = some { player with allianceId := none } := by
  unfold unallied
  rw [OrdDict.get?_mapVals, hplayer, Option.map_some, if_pos hallied]

theorem unallied_fieldsValid {state : MatchState} (hvalid : state.FieldsValid) (allianceId : String) :
    (unallied allianceId state).FieldsValid := by
  refine ⟨hvalid.1, hvalid.2.1, ?_⟩
  intro player hplayer
  obtain ⟨playerId, hget⟩ := OrdDict.mem_values.1 hplayer
  unfold unallied at hget
  rw [OrdDict.get?_mapVals] at hget
  obtain ⟨before, hbefore, rfl⟩ := Option.map_eq_some_iff.1 hget
  have hresources := hvalid.2.2 before (OrdDict.mem_values.2 ⟨playerId, hbefore⟩)
  split
  · exact hresources
  · exact hresources

/-- What a player would be shown alone. -/
def aloneProjection (state : MatchState) (matchId allianceId : String) (mapDefinition : MapDefinition)
    (playerId : String) : AgentStateProjection :=
  coalitionProjection (unallied allianceId state) playerId matchId mapDefinition
    (((unallied allianceId state).players.get? playerId).getD ⟨⟨0, 0, 0⟩, [], none, false⟩)

section Alone

variable {state : MatchState} {allianceId : String} {member : String} (matchId : String)

theorem projectAgentState_unallied (hvalid : state.FieldsValid) (hmember : member ∈ membersOf state allianceId)
    (active : Option MapDefinition) :
    projectAgentState (unallied allianceId state) member matchId active =
      .ok (aloneProjection state matchId allianceId (active.getD loadUk1900Map) member) := by
  obtain ⟨player, hplayer, hallied⟩ := mem_membersOf.1 hmember
  have hget := get?_unallied hplayer hallied
  rw [projectAgentState_eq_ok (unallied_fieldsValid hvalid allianceId) hget, aloneProjection, hget]
  rfl

theorem aloneProjection_vision (hmember : member ∈ membersOf state allianceId) (mapDefinition : MapDefinition) :
    (aloneProjection state matchId allianceId mapDefinition member).cities =
        coalitionCities state mapDefinition [member] ∧
      (aloneProjection state matchId allianceId mapDefinition member).visibleArmies =
        coalitionArmies state mapDefinition [member] := by
  obtain ⟨player, hplayer, hallied⟩ := mem_membersOf.1 hmember
  unfold aloneProjection
  rw [get?_unallied hplayer hallied]
  exact ⟨rfl, rfl⟩

end Alone

/-- The members of an alliance are shown the same cities and armies: those that they would be shown alone, put together. -/
theorem projectAgentState_shared (state : MatchState) (hvalid : state.FieldsValid) (mapDefinition : Option MapDefinition)
    (matchId allianceId : String) :
    ∃ (alone : String → AgentStateProjection) (cities : OrdDict String VisibleCityState)
        (visibleArmies : List VisibleArmyState),
      (∀ member ∈ membersOf state allianceId,
        projectAgentState (unallied allianceId state) member matchId mapDefinition = .ok (alone member)) ∧
      (∀ member ∈ membersOf state allianceId, ∃ projection,
        projectAgentState state member matchId mapDefinition = .ok projection ∧ projection.cities = cities ∧
          projection.visibleArmies = visibleArmies ∧
          projection.allianceMembers = (membersOf state allianceId).insertionSort (· ≤ ·)) ∧
      UnionOfVisions state (membersOf state allianceId) alone cities visibleArmies := by
  let active := mapDefinition.getD loadUk1900Map
  let members := membersOf state allianceId
  refine ⟨aloneProjection state matchId allianceId active, coalitionCities state active members,
    coalitionArmies state active members, ?_, ?_, ?_⟩
  · exact fun member hmember => projectAgentState_unallied matchId hvalid hmember mapDefinition
  · intro member hmember
    obtain ⟨player, hplayer, hallied⟩ := mem_membersOf.1 hmember
    refine ⟨_, projectAgentState_eq_ok hvalid hplayer matchId mapDefinition, ?_⟩
    unfold coalitionProjection
    rw [membersOf_eq hallied]
    exact ⟨rfl, rfl, rfl⟩
  · have hvision := fun member (hmember : member ∈ members) => aloneProjection_vision matchId hmember active
    refine ⟨?_, ?_, ?_⟩
    · intro cityId
      rw [coalitionCities_union]
      congr 1
      apply List.filterMap_congr
      intro member hmember
      rw [(hvision member hmember).1]
    · intro view
      rw [mem_coalitionArmies_union]
      have hseen : ∀ view, ∀ member ∈ members, view ∈ (aloneProjection state matchId allianceId active member).visibleArmies ↔
          view ∈ coalitionArmies state active [member] := by
        intro view member hmember
        rw [(hvision member hmember).2]
      apply and_congr
      · exact exists_congr fun member => and_congr_right fun hmember => (hseen view member hmember).symm
      · apply imp_congr_right
        intro _
        apply forall₂_congr
        intro member hmember
        exact forall_congr' fun other => imp_congr_left (hseen other member hmember).symm
    · unfold coalitionArmies
      rw [List.map_map]
      have hid : (VisibleArmyState.id ∘ fun army => armyFields army members) = ArmyState.id :=
        funext fun army => armyFields_id army members
      rw [hid]
      exact List.filter_sublist.map _

/-- The duel with both players in one alliance. -/
def alliedDuel : MatchState :=
  { duelState with players := duelState.players.mapVals fun _ player => { player with allianceId := some "alliance-1" } }

theorem projectAgentState_shared_alliedDuel :
    ∃ (alone : String → AgentStateProjection) (cities : OrdDict String VisibleCityState)
        (visibleArmies : List VisibleArmyState),
      (∀ member ∈ membersOf alliedDuel "alliance-1",
        projectAgentState (unallied "alliance-1" alliedDuel) member "duel" none = .ok (alone member)) ∧
      (∀ member ∈ membersOf alliedDuel "alliance-1", ∃ projection,
        projectAgentState alliedDuel member "duel" none = .ok projection ∧ projection.cities = cities ∧
          projection.visibleArmies = visibleArmies ∧
          projection.allianceMembers = (membersOf alliedDuel "alliance-1").insertionSort (· ≤ ·)) ∧
      UnionOfVisions alliedDuel (membersOf alliedDuel "alliance-1") alone cities visibleArmies :=
  projectAgentState_shared alliedDuel (by decide) none "duel" "alliance-1"

end IronCouncil
