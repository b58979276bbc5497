import IronCouncil.Base.KeyOrder
import IronCouncil.Proof.BoardRuns
import IronCouncil.Proof.CityFrames
import IronCouncil.Proof.Validity
import IronCouncil.Proof.VictoryCountdown
import IronCouncil.SimulationRegression

/-!
# What the regression harness finds

On a valid state the harness finds nothing exactly when the state has the cities of the map, its board is recorded and no player is in debt. The engine keeps all of this but the last, whatever is ordered, so debts are all that the harness can find after a scenario has started well.
-/

namespace IronCouncil

namespace RegressionScenario

variable {scenario : RegressionScenario} {printing : RegressionPrinting} {tick : Nat} {state : MatchState}

/-! ### The checks one by one -/

theorem resourceFailures_eq_nil {invariantPrefix : String} {resources : ResourceState} :
    scenario.resourceFailures tick invariantPrefix resources = [] ↔ resources.FieldsValid := by
  unfold resourceFailures ResourceState.FieldsValid
  simp only [List.flatMap_cons, List.flatMap_nil, List.append_nil, List.append_eq_nil_iff, ite_eq_right_iff,
    List.cons_ne_self, imp_false, not_lt]
  exact Iff.rfl

/-- The state has the cities of the scenario's map. -/
def OnMap (scenario : RegressionScenario) (state : MatchState) : Prop :=
  ∀ cityId, cityId ∈ state.cities.keys ↔ cityId ∈ scenario.mapDefinition.cities.keys

theorem mapFailures_eq_nil : scenario.mapFailures printing tick state = [] ↔ scenario.OnMap state := by
  unfold mapFailures OnMap
  simp only [ite_eq_left_iff, List.cons_ne_self, imp_false, not_not, List.filter_eq_nil_iff,
    decide_eq_true_eq]
  constructor
  · intro h cityId
    exact ⟨h.2 cityId, h.1 cityId⟩
  · intro h
    exact ⟨fun cityId => (h cityId).2, fun cityId => (h cityId).1⟩

theorem cityFailures_eq_nil {cityId : String} {city : CityState} : scenario.cityFailures tick state cityId city = [] ↔
    (∀ owner, city.owner = some owner → owner ∈ state.players.keys) ∧ city.resources.FieldsValid := by
  have hcounts : ∀ count : Nat, ¬ (count : Int) < 0 := fun count => by omega
  unfold cityFailures
  rw [List.append_eq_nil_iff, List.append_eq_nil_iff, List.append_eq_nil_iff, resourceFailures_eq_nil,
    if_neg (hcounts _), if_neg (hcounts _)]
  cases city.owner with
  | none => simp
  | some owner => simp

theorem placeFailures_eq_nil {army : ArmyState} {invariant place : String} {cityId : Option String} :
    scenario.placeFailures tick state army invariant place cityId = [] ↔
      ∀ known, cityId = some known → known ∈ state.cities.keys := by
  unfold placeFailures
  cases cityId with
  | none => simp
  | some cityId => simp

/-- The army belongs to a player and is, and goes, where the board has cities. -/
structure ArmyKnown (state : MatchState) (army : ArmyState) : Prop where
  owner : army.owner ∈ state.players.keys
  location : ∀ cityId, army.location = some cityId → cityId ∈ state.cities.keys
  destination : ∀ cityId, army.destination = some cityId → cityId ∈ state.cities.keys
  path : ∀ path, army.path = some path → ∀ cityId ∈ path, cityId ∈ state.cities.keys

theorem armyFailures_eq_nil {army : ArmyState} (htroops : 0 < army.troops) :
    scenario.armyFailures printing tick state army = [] ↔ ArmyKnown state army := by
  unfold armyFailures
  rw [List.append_eq_nil_iff, List.append_eq_nil_iff, List.append_eq_nil_iff, List.append_eq_nil_iff,
    placeFailures_eq_nil, placeFailures_eq_nil, if_neg (Nat.not_le_of_lt htroops)]
  constructor
  · rintro ⟨⟨⟨⟨howner, -⟩, hlocation⟩, hdestination⟩, hpath⟩
    refine ⟨by simpa using howner, hlocation, hdestination, ?_⟩
    intro path hsome
    rw [hsome] at hpath
    simpa using hpath
  · intro h
    refine ⟨⟨⟨⟨if_pos h.owner, rfl⟩, h.location⟩, h.destination⟩, ?_⟩
    cases hsome : army.path with
    | none => rfl
    | some path => simpa using h.path path hsome

/-! ### Holdings and eliminations -/

theorem mem_ownedCityIds {playerId cityId : String} :
    cityId ∈ ownedCityIds state playerId ↔ state.cityOwner cityId = some playerId := by
  unfold ownedCityIds
  rw [MatchState.cityOwner_eq_some]
  simp [OrdDict.get?_eq_some]

theorem ownedCityIds_nodup (state : MatchState) (playerId : String) : (ownedCityIds state playerId).Nodup :=
  state.cities.keys_nodup.sublist (List.filter_sublist.map _)

/-- The player lists the cities it owns, and is marked as eliminated if it owns no city and no army. -/
structure PlayerRecorded (state : MatchState) (playerId : String) (player : PlayerState) : Prop where
  listed : player.citiesOwned.Perm (ownedCityIds state playerId)
  marked : player.isEliminated = true ↔ Absent state playerId

theorem hasPresence_eq_false {playerId : String} :
    decide ((ownedCityIds state playerId).insertionSort (· ≤ ·) ≠ [] ∨
      0 < (state.armies.filter fun army => army.owner = playerId).length) = false ↔ Absent state playerId := by
  have hcities : (ownedCityIds state playerId).insertionSort (· ≤ ·) = [] ↔
      ∀ cityId, state.cityOwner cityId ≠ some playerId := by
    rw [List.eq_nil_iff_forall_not_mem]
    exact forall_congr' fun cityId => by rw [List.mem_insertionSort, mem_ownedCityIds]
  have harmies : ¬ 0 < (state.armies.filter fun army => army.owner = playerId).length ↔
      ∀ army ∈ state.armies, army.owner ≠ playerId := by
    rw [List.length_pos_iff, not_not, List.filter_eq_nil_iff]
    simp
  rw [decide_eq_false_iff_not, not_or, not_not, hcities, harmies]
  exact Iff.rfl

theorem PlayerRecorded.known {playerId : String} {player : PlayerState}
    (hlisted : player.citiesOwned.Perm (ownedCityIds state playerId)) :
    player.citiesOwned.filter (· ∉ state.cities.keys) = [] := by
  rw [List.filter_eq_nil_iff]
  intro cityId hmem
  obtain ⟨city, hcity, -⟩ := MatchState.cityOwner_eq_some.1 (mem_ownedCityIds.1 (hlisted.mem_iff.1 hmem))
  simpa using OrdDict.mem_keys_of_get? hcity

theorem marked_iff {playerId : String} {isEliminated : Bool} :
    (isEliminated ≠ decide ((ownedCityIds state playerId).insertionSort (· ≤ ·) ≠ [] ∨
      0 < (state.armies.filter fun army => army.owner = playerId).length)) ↔
        (isEliminated = true ↔ Absent state playerId) := by
  rw [← hasPresence_eq_false]
  generalize decide ((ownedCityIds state playerId).insertionSort (· ≤ ·) ≠ [] ∨
    0 < (state.armies.filter fun army => army.owner = playerId).length) = hasPresence
  cases isEliminated <;> cases hasPresence <;> simp

theorem playerFailures_eq_nil {playerId : String} {player : PlayerState} :
    scenario.playerFailures printing tick state playerId player = [] ↔
      player.resources.FieldsValid ∧ PlayerRecorded state playerId player := by
  have hsorted : player.citiesOwned.insertionSort (· ≤ ·) = (ownedCityIds state playerId).insertionSort (· ≤ ·) ↔
      player.citiesOwned.Perm (ownedCityIds state playerId) := by
    constructor
    · intro h
      exact (List.perm_insertionSort _ _).symm.trans ((List.Perm.of_eq h).trans (List.perm_insertionSort _ _))
    · exact insertionSort_eq_of_perm
  unfold playerFailures
  simp only [List.append_eq_nil_iff, resourceFailures_eq_nil, ite_eq_left_iff, ite_eq_right_iff, reduceCtorEq, imp_false,
    not_not, hsorted]
  constructor
  · rintro ⟨⟨⟨hresources, -⟩, hlisted⟩, helim⟩
    exact ⟨hresources, hlisted, marked_iff.1 helim⟩
  · rintro ⟨hresources, hlisted, helim⟩
    exact ⟨⟨⟨hresources, PlayerRecorded.known hlisted⟩, hlisted⟩, marked_iff.2 helim⟩

/-- Of a recorded player only a debt can be found. -/
theorem PlayerRecorded.playerFailures {playerId : String} {player : PlayerState} (h : PlayerRecorded state playerId player) :
    scenario.playerFailures printing tick state playerId player =
      scenario.resourceFailures tick s!"player-resource:{playerId}" player.resources := by
  unfold RegressionScenario.playerFailures
  dsimp only
  rw [if_pos (PlayerRecorded.known h.listed), if_pos (insertionSort_eq_of_perm h.listed), if_neg (marked_iff.2 h.marked),
    List.append_nil, List.append_nil, List.append_nil]

/-! ### A state as a whole -/

/-- What the harness takes for granted: the parts of a state are valid, and an army is in a city or under way, under an id of its own. -/
structure PartsSound (state : MatchState) : Prop where
  cities : CitiesValid state
  armies : ArmiesValid state.armies
  distinct : (state.armies.map (·.id)).Nodup
  either : ∀ army ∈ state.armies, army.location = none ↔ army.destination ≠ none

theorem PartsSound.placed (h : PartsSound state) {army : ArmyState} (harmy : army ∈ state.armies)
    (hknown : ArmyKnown state army) : ArmyPlaced state.cities.keys army where
  either := h.either army harmy
  location := hknown.location
  destination := hknown.destination
  path := hknown.path
  transit := by
    intro hdestination
    obtain ⟨-, hleft, hposition⟩ := h.armies army harmy
    unfold ArmyState.PositioningValid at hposition
    rw [if_neg hdestination] at hposition
    obtain ⟨hsome, hne, hticks⟩ := hposition
    obtain ⟨path, hpath⟩ := Option.ne_none_iff_exists'.1 hsome
    refine ⟨⟨path, hpath, ?_⟩, by omega⟩
    rintro rfl
    exact hne hpath

theorem armyKnown_of_recorded (h : BoardRecorded state) {army : ArmyState} (harmy : army ∈ state.armies) :
    ArmyKnown state army :=
  have hplaced := h.consistent.within.armies.placed army harmy
  ⟨h.consistent.within.armies.owners army harmy, hplaced.location, hplaced.destination, hplaced.path⟩

theorem playerRecorded_of_recorded (h : BoardRecorded state) {playerId : String} {player : PlayerState}
    (hplayer : state.players.get? playerId = some player) : PlayerRecorded state playerId player where
  listed := by
    obtain ⟨hnodup, howns⟩ := h.consistent.holdings playerId player.citiesOwned
      (MatchState.mem_holdings.2 ⟨player, hplayer, rfl⟩)
    refine (List.perm_ext_iff_of_nodup hnodup (ownedCityIds_nodup state playerId)).2 fun cityId => ?_
    rw [mem_ownedCityIds]
    exact howns cityId
  marked := by
    rw [← h.recorded playerId (OrdDict.mem_keys_of_get? hplayer)]
    unfold Eliminated
    simp [hplayer]

theorem boardRecorded_of_parts (h : PartsSound state)
    (howners : ∀ cityId owner, state.cityOwner cityId = some owner → owner ∈ state.players.keys)
    (harmies : ∀ army ∈ state.armies, ArmyKnown state army)
    (hplayers : ∀ playerId player, state.players.get? playerId = some player → PlayerRecorded state playerId player) :
    BoardRecorded state := by
  refine ⟨⟨?_, howners, ⟨fun army harmy => (harmies army harmy).owner, h.distinct,
    fun army harmy => h.placed harmy (harmies army harmy)⟩⟩, ?_⟩
  · intro playerId citiesOwned hholding
    obtain ⟨player, hplayer, rfl⟩ := MatchState.mem_holdings.1 hholding
    have hlisted := (hplayers playerId player hplayer).listed
    refine ⟨hlisted.nodup_iff.2 (ownedCityIds_nodup state playerId), fun cityId => ?_⟩
    rw [hlisted.mem_iff, mem_ownedCityIds]
  · intro playerId hmem
    obtain ⟨player, hplayer⟩ := OrdDict.mem_keys.1 hmem
    rw [← (hplayers playerId player hplayer).marked]
    unfold Eliminated
    simp [hplayer]

theorem cityFailures_of_recorded (hcities : CitiesValid state) (hboard : BoardRecorded state) :
    ∀ entry ∈ state.cities.entries, scenario.cityFailures tick state entry.1 entry.2 = [] := by
  intro entry hentry
  have hfound : state.cities.get? entry.1 = some entry.2 := OrdDict.get?_eq_some.2 hentry
  refine cityFailures_eq_nil.2 ⟨fun owner howner => ?_, (hcities _ (OrdDict.mem_values.2 ⟨_, hfound⟩)).1⟩
  exact hboard.consistent.within.cityOwners entry.1 owner
    (MatchState.cityOwner_eq_some.2 ⟨entry.2, hfound, howner⟩)

theorem armyFailures_of_recorded (harmies : ArmiesValid state.armies) (hboard : BoardRecorded state) :
    ∀ army ∈ state.armies, scenario.armyFailures printing tick state army = [] := by
  intro army hmem
  exact (armyFailures_eq_nil (harmies army hmem).1).2 (armyKnown_of_recorded hboard hmem)

/-- A state passes exactly when it has the cities of the map, a recorded board and no player in debt. -/
theorem checkStateInvariants_eq_nil (h : PartsSound state) :
    scenario.checkStateInvariants printing tick state false = [] ↔
      scenario.OnMap state ∧ BoardRecorded state ∧ ∀ player ∈ state.players.values, player.resources.FieldsValid := by
  unfold checkStateInvariants
  simp only [List.append_eq_nil_iff, List.flatMap_eq_nil_iff, mapFailures_eq_nil, playerFailures_eq_nil,
    Bool.false_eq_true, if_false, and_true]
  constructor
  · rintro ⟨⟨⟨hmap, hcities⟩, harmies⟩, hplayers⟩
    refine ⟨hmap, boardRecorded_of_parts h ?_ ?_ ?_, ?_⟩
    · intro cityId owner howner
      obtain ⟨city, hfound, howned⟩ := MatchState.cityOwner_eq_some.1 howner
      exact (cityFailures_eq_nil.1 (hcities (cityId, city) (OrdDict.get?_eq_some.1 hfound))).1 owner howned
    · intro army harmy
      exact (armyFailures_eq_nil (h.armies army harmy).1).1 (harmies army harmy)
    · intro playerId player hplayer
      exact (hplayers (playerId, player) (OrdDict.get?_eq_some.1 hplayer)).2
    · intro player hplayer
      obtain ⟨playerId, hfound⟩ := OrdDict.mem_values.1 hplayer
      exact (hplayers (playerId, player) (OrdDict.get?_eq_some.1 hfound)).1
  · rintro ⟨hmap, hboard, hsolvent⟩
    refine ⟨⟨⟨hmap, cityFailures_of_recorded h.cities hboard⟩, armyFailures_of_recorded h.armies hboard⟩, ?_⟩
    intro entry hentry
    have hplayer : state.players.get? entry.1 = some entry.2 := OrdDict.get?_eq_some.2 hentry
    exact ⟨hsolvent _ (OrdDict.mem_values.2 ⟨_, hplayer⟩), playerRecorded_of_recorded hboard hplayer⟩

/-- On a recorded board only debts can be found, and what is wrong with the victory state. -/
theorem checkStateInvariants_of_recorded (hcities : CitiesValid state) (harmies : ArmiesValid state.armies)
    (hmap : scenario.OnMap state) (hboard : BoardRecorded state) :
    scenario.checkStateInvariants printing tick state true =
      (state.players.entries.flatMap fun entry =>
        scenario.resourceFailures tick s!"player-resource:{entry.1}" entry.2.resources) ++
        scenario.victoryFailures tick state (plainCityCounts state) := by
  have hcity : (state.cities.entries.flatMap fun entry => scenario.cityFailures tick state entry.1 entry.2) = [] :=
    List.flatMap_eq_nil_iff.2 (cityFailures_of_recorded hcities hboard)
  have harmy : state.armies.flatMap (scenario.armyFailures printing tick state) = [] :=
    List.flatMap_eq_nil_iff.2 (armyFailures_of_recorded harmies hboard)
  have hplayers : (state.players.entries.flatMap fun entry =>
      scenario.playerFailures printing tick state entry.1 entry.2) =
      state.players.entries.flatMap fun entry =>
        scenario.resourceFailures tick s!"player-resource:{entry.1}" entry.2.resources :=
    List.flatMap_congr fun entry hentry =>
      (playerRecorded_of_recorded hboard (OrdDict.get?_eq_some.2 hentry)).playerFailures
  unfold checkStateInvariants
  rw [mapFailures_eq_nil.2 hmap, hcity, harmy, hplayers, if_pos rfl]
  rfl

/-! ### The victory state of a tick -/

/-- The leader that a tick records stands the checks, and so does its countdown. -/
theorem leaderFailures_eq_nil {counts : OrdDict String Nat} {victory : VictoryState}
    (hvictory : state.victory = updatedVictory victory (soleLeader counts, largestCount counts)) :
    scenario.leaderFailures tick state counts = [] := by
  have hleading : state.victory.leadingAlliance = soleLeader counts := congrArg VictoryState.leadingAlliance hvictory
  have hcountdown : state.victory.countdownTicksRemaining ≠ none → soleLeader counts ≠ none ∧
      ¬ largestCount counts < victory.threshold := by
    intro hsome
    rw [hvictory] at hsome
    refine not_or.1 fun hout => hsome ?_
    exact if_pos hout
  unfold leaderFailures
  dsimp only
  rw [hleading]
  cases hsole : soleLeader counts with
  | none =>
      refine if_pos (not_not.1 fun hsome => ?_)
      exact (hcountdown hsome).1 hsole
  | some leader =>
      have hleaders := leadersOf_of_soleLeader hsole
      have hknown : leader ∈ counts.keys := by
        have hmem : leader ∈ leadersOf counts := by
          rw [hleaders]
          exact List.mem_cons_self
        obtain ⟨entry, hentry, rfl⟩ := List.mem_map.1 hmem
        exact List.mem_map_of_mem (List.mem_of_mem_filter hentry)
      have hheld : ¬ (state.victory.countdownTicksRemaining ≠ none ∧ state.victory.citiesHeld < state.victory.threshold) := by
        rintro ⟨hsome, hfewer⟩
        refine (hcountdown hsome).2 ?_
        rw [hvictory] at hfewer
        exact hfewer
      simp only [hleaders, List.insertionSort_cons, List.insertionSort_nil, List.orderedInsert, List.length_singleton,
        if_true, List.head?_cons, hknown, hheld, if_false, List.append_nil]

theorem victoryFailures_eq_nil {victory : VictoryState} (hvictory : state.victory = updatedVictory victory (plainLeading state))
    (hreachable : state.victory.threshold ≤ state.cities.keys.length) :
    scenario.victoryFailures tick state (plainCityCounts state) = [] := by
  have hheld : state.victory.citiesHeld = largestCount (plainCityCounts state) :=
    congrArg VictoryState.citiesHeld hvictory
  unfold victoryFailures thresholdFailures
  rw [leaderFailures_eq_nil hvictory, if_neg (Nat.not_lt.2 hreachable), if_pos hheld]
  rfl

/-! ### Runs -/

/-- What the engine keeps of a scenario that starts well. -/
structure Sound (scenario : RegressionScenario) (state : MatchState) : Prop where
  cities : CitiesValid state
  armies : ArmiesValid state.armies
  onMap : scenario.OnMap state
  recorded : BoardRecorded state
  apart : CoalitionIdsApart state
  reachable : state.victory.threshold ≤ state.cities.keys.length

/-- Each envelope is validated on its own, and whatever is accepted goes to a city of the board. -/
theorem orderProvider_destinations (scenario : RegressionScenario) (tick : Nat) (state : MatchState) :
    ∀ order ∈ (scenario.orderProvider tick state).movements, order.destination ∈ state.cities.keys := by
  intro order horder
  unfold orderProvider at horder
  rw [foldl_append_part (·.movements) rfl fun _ _ => rfl, List.flatMap_map] at horder
  obtain ⟨envelope, -, haccepted⟩ := List.mem_flatMap.1 horder
  obtain ⟨army, location, -, hknown, -⟩ := accepted_movement haccepted
  exact hknown

theorem Sound.simulateTick (h : scenario.Sound state) {simulated : SimulatedTick}
    (hsimulated : IronCouncil.simulateTick (.provider scenario.orderProvider) (some scenario.mapDefinition) state =
      .ok simulated) :
    scenario.Sound simulated.snapshot ∧
      scenario.victoryFailures simulated.tick simulated.snapshot (plainCityCounts simulated.snapshot) = [] := by
  unfold IronCouncil.simulateTick at hsimulated
  split at hsimulated
  · cases hsimulated
  · rename_i resolution hresolved
    cases hsimulated
    obtain ⟨settled, hsettled, rfl⟩ := resolveTick_eq_ok hresolved
    have hframe := tickFrame_resolveThroughDiplomacy hsettled
    have hcityKeys := keys_resolveThroughDiplomacy hsettled
    have hthreshold : settled.victory = state.victory := congrArg (fun frame => frame.2.1) hframe
    have hapart : CoalitionIdsApart settled :=
      coalitionIdsApart_of_memberships (congrArg (fun frame => frame.2.2) hframe) h.apart
    have hreachable : settled.victory.threshold ≤ settled.cities.keys.length := by
      rw [hthreshold, hcityKeys]
      exact h.reachable
    obtain ⟨hcities, harmies⟩ := boardValid_resolveThroughDiplomacy h.cities h.armies hsettled
    have hwithin : BoardWithin (· ∈ settled.players.keys) settled := by
      rw [keys_of_tickFrame hframe]
      exact h.recorded.consistent.within.resolveThroughDiplomacy (scenario.orderProvider_destinations _ _) hsettled
    have hboard : BoardRecorded settled := ⟨⟨h.recorded.consistent.holdings.resolveThroughDiplomacy hsettled, hwithin⟩,
      eliminationRecorded_resolveThroughDiplomacy hsettled⟩
    have honMap : scenario.OnMap settled := by
      intro cityId
      rw [hcityKeys]
      exact h.onMap cityId
    refine ⟨⟨hcities, harmies, honMap, hboard.congr rfl rfl rfl, hapart, hreachable⟩, ?_⟩
    exact victoryFailures_eq_nil
      (congrArg (updatedVictory settled.victory) (plainLeading_eq_leadingCoalition hapart).symm) hreachable

theorem Sound.simulateTicks {ticks : Nat} {state : MatchState} (h : scenario.Sound state) {simulation : SimulationResult}
    (hsimulation : IronCouncil.simulateTicks (.provider scenario.orderProvider) (some scenario.mapDefinition) ticks state =
      .ok simulation) :
    ∀ simulated ∈ simulation.ticks, scenario.Sound simulated.snapshot ∧
      scenario.victoryFailures simulated.tick simulated.snapshot (plainCityCounts simulated.snapshot) = [] := by
  induction ticks generalizing state simulation with
  | zero =>
      cases hsimulation
      intro simulated hmem
      cases hmem
  | succ ticks ih =>
      unfold IronCouncil.simulateTicks at hsimulation
      split at hsimulation
      · cases hsimulation
      · rename_i first hfirst
        split at hsimulation
        · cases hsimulation
        · rename_i rest hrest
          cases hsimulation
          intro simulated hmem
          rcases List.mem_cons.1 hmem with rfl | hlater
          · exact h.simulateTick hfirst
          · exact ih (h.simulateTick hfirst).1 hrest simulated hlater

/-- The initial state passes its checks; nothing is checked there of the alliances' names and the threshold. -/
structure StartsWell (printing : RegressionPrinting) (scenario : RegressionScenario) : Prop where
  parts : PartsSound scenario.initialState
  passes : scenario.initialFailures printing = []
  apart : CoalitionIdsApart scenario.initialState
  reachable : scenario.initialState.victory.threshold ≤ scenario.initialState.cities.keys.length

/-- The player is in debt after the tick, which is what the failure says. -/
def ReportsDebt (scenario : RegressionScenario) (simulated : SimulatedTick) (failure : RegressionFailure) : Prop :=
  ∃ playerId player, simulated.snapshot.players.get? playerId = some player ∧ ¬ player.resources.FieldsValid ∧
    failure ∈ scenario.resourceFailures simulated.tick s!"player-resource:{playerId}" player.resources

theorem StartsWell.run_failures (h : scenario.StartsWell printing) {failure : RegressionFailure}
    (hfailure : failure ∈ (scenario.run printing).2) :
    (∃ error, scenario.simulation = .error error ∧
      failure = scenario.failure scenario.initialState.tick "simulation-executes" (printing.raised error)) ∨
    ∃ simulation, scenario.simulation = .ok simulation ∧ ∃ simulated ∈ simulation.ticks,
      scenario.ReportsDebt simulated failure := by
  obtain ⟨hmap, hboard, -⟩ := (checkStateInvariants_eq_nil h.parts).1 h.passes
  have hsound : scenario.Sound scenario.initialState :=
    ⟨h.parts.cities, h.parts.armies, hmap, hboard, h.apart, h.reachable⟩
  unfold run at hfailure
  rw [if_neg (not_not.2 h.passes)] at hfailure
  cases hsimulation : scenario.simulation with
  | error error =>
      rw [hsimulation] at hfailure
      exact Or.inl ⟨error, rfl, List.mem_singleton.1 hfailure⟩
  | ok simulation =>
      rw [hsimulation] at hfailure
      obtain ⟨simulated, hmem, hfound⟩ := List.mem_flatMap.1 hfailure
      obtain ⟨hkept, hvictory⟩ := hsound.simulateTicks hsimulation simulated hmem
      rw [checkStateInvariants_of_recorded hkept.cities hkept.armies hkept.onMap hkept.recorded, hvictory,
        List.append_nil] at hfound
      obtain ⟨⟨playerId, player⟩, hentry, hdebt⟩ := List.mem_flatMap.1 hfound
      refine Or.inr ⟨simulation, rfl, simulated, hmem, playerId, player, OrdDict.get?_eq_some.2 hentry, ?_, hdebt⟩
      intro hsolvent
      dsimp only at hdebt
      rw [resourceFailures_eq_nil.2 hsolvent] at hdebt
      cases hdebt

end RegressionScenario

/-- Where every scenario starts well, the batch finds ticks that raise and players in debt, and nothing else. -/
theorem regressionBatch_finds_debts {printing : RegressionPrinting} {scenarios : List RegressionScenario}
    (hstarts : ∀ scenario ∈ scenarios, scenario.StartsWell printing) :
    ∀ failure ∈ (runSimulationRegressionBatch printing scenarios).failures, ∃ scenario ∈ scenarios,
      (∃ error, scenario.simulation = .error error ∧
        failure = scenario.failure scenario.initialState.tick "simulation-executes" (printing.raised error)) ∨
      ∃ simulation, scenario.simulation = .ok simulation ∧ ∃ simulated ∈ simulation.ticks,
        scenario.ReportsDebt simulated failure := by
  intro failure hfailure
  obtain ⟨scenario, hscenario, hfound⟩ := List.mem_flatMap.1 hfailure
  exact ⟨scenario, hscenario, (hstarts scenario hscenario).run_failures hfound⟩

def duelMap : MapDefinition where
  mapId := "duel"
  cities := OrdDict.ofList [("london", ⟨"Southeast", .money, true⟩), ("southampton", ⟨"South", .money, true⟩)]
  edges := [⟨"london", "southampton", 1, Nat.one_pos, .land⟩]
  edges_known := by decide

/-- The recruits that are paid for after upkeep. -/
def hungryScenario : RegressionScenario :=
  ⟨"hungry", duelMap, hungryRecord.state, 1, OrdDict.ofList [(0, [hungryRecruits])]⟩

example : (runSimulationRegressionBatch ⟨", ".intercalate, fun _ => "", fun _ _ => ""⟩ [hungryScenario]).failures =
    [⟨"hungry", 1, "player-resource:p1:food-non-negative", "player-resource:p1 has negative food=-2"⟩] := by
  decide +kernel

end IronCouncil
