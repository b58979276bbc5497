import IronCouncil.Proof.CityOrder
import IronCouncil.Proof.TickLedger

/-!
# The wear of fortifications

In a tick a fortification loses one level where its city is besieged after combat or its upkeep was not paid, and no city loses two. The cities that the siege has worn are remembered, and the unpaid ones among them are passed over.
-/

namespace IronCouncil

def MatchState.fortification (state : MatchState) (cityId : String) : Nat :=
  (cityView (fun city => city.upgrades.fortification) state cityId).getD 0

/-- Two players are the same or in one alliance. -/
def SameSide (state : MatchState) (playerId other : String) : Prop :=
  playerId = other ∨ ∃ allianceId, (playerId, some allianceId) ∈ state.memberships ∧ (other, some allianceId) ∈ state.memberships

def Joined (mapDefinition : MapDefinition) (cityId other : String) : Prop :=
  ∃ edge ∈ mapDefinition.edges, edge.joins cityId other

/-- The city is owned and has neighbours, and none of them belongs to the owner's side. -/
def Besieged (mapDefinition : MapDefinition) (state : MatchState) (cityId : String) : Prop :=
  ∃ owner, state.cityOwner cityId = some owner ∧ (∃ neighbour, Joined mapDefinition cityId neighbour) ∧
    ∀ neighbour, Joined mapDefinition cityId neighbour →
      ∀ other, state.cityOwner neighbour = some other → ¬ SameSide state owner other

/-- One level less for the cities of a kind, as far as there is one, and the same for the others. -/
structure Lowered (P : String → Prop) (state state' : MatchState) : Prop where
  lowered : ∀ cityId, P cityId → state'.fortification cityId = state.fortification cityId - 1
  kept : ∀ cityId, ¬ P cityId → state'.fortification cityId = state.fortification cityId

theorem Lowered.le {P : String → Prop} {state state' : MatchState} (h : Lowered P state state') (cityId : String) :
    state'.fortification cityId ≤ state.fortification cityId := by
  by_cases hlowered : P cityId
  · rw [h.lowered cityId hlowered]
    omega
  · exact (h.kept cityId hlowered).le

theorem fortification_congr {state state' : MatchState} (h : state'.cities = state.cities) (cityId : String) :
    state'.fortification cityId = state.fortification cityId := by
  unfold MatchState.fortification
  rw [cityView_congr h]

theorem fortification_of_get? {state : MatchState} {cityId : String} {city : CityState}
    (h : state.cities.get? cityId = some city) : state.fortification cityId = city.upgrades.fortification := by
  unfold MatchState.fortification cityView
  rw [h]
  rfl

theorem fortification_degradeFortification (state : MatchState) (worn cityId : String) :
    (degradeFortification state worn).fortification cityId =
      if cityId = worn then state.fortification cityId - 1 else state.fortification cityId := by
  unfold MatchState.fortification cityView degradeFortification MatchState.modifyCity
  rw [OrdDict.get?_modify]
  cases state.cities.get? cityId with
  | none => simp
  | some city =>
      split
      · rfl
      · rfl

/-! ### Sieges -/

section Siege

variable {mapDefinition : MapDefinition} {state : MatchState}

theorem mem_upsert_insert {index : OrdDict String (List String)} {cityId other key neighbour : String} :
    neighbour ∈ ((index.upsert cityId [other] (List.insert other)).get? key).getD [] ↔
      neighbour ∈ (index.get? key).getD [] ∨ (cityId = key ∧ other = neighbour) := by
  rw [OrdDict.get?_upsert]
  by_cases hkey : key = cityId
  · subst hkey
    rw [if_pos rfl, Option.getD_some]
    cases index.get? key with
    | none => simp [eq_comm]
    | some neighbours => simp [List.mem_insert_iff, or_comm, eq_comm]
  · rw [if_neg hkey]
    simp [Ne.symm hkey]

theorem mem_addNeighbors {index : OrdDict String (List String)} {edge : MapEdge} {cityId neighbour : String} :
    neighbour ∈ ((addNeighbors index edge).get? cityId).getD [] ↔
      neighbour ∈ (index.get? cityId).getD [] ∨ edge.joins cityId neighbour := by
  unfold addNeighbors
  rw [mem_upsert_insert, mem_upsert_insert, or_assoc]
  unfold MapEdge.joins
  simp only [and_comm]

theorem mem_adjacentCityIdsByCity {cityId neighbour : String} :
    neighbour ∈ ((adjacentCityIdsByCity mapDefinition).get? cityId).getD [] ↔ Joined mapDefinition cityId neighbour := by
  have hfold : ∀ (edges : List MapEdge) (index : OrdDict String (List String)),
      neighbour ∈ ((edges.foldl addNeighbors index).get? cityId).getD [] ↔
        neighbour ∈ (index.get? cityId).getD [] ∨ ∃ edge ∈ edges, edge.joins cityId neighbour := by
    intro edges
    induction edges with
    | nil => simp
    | cons edge edges ih =>
        intro index
        rw [List.foldl_cons, ih, mem_addNeighbors, or_assoc]
        simp only [List.mem_cons, exists_eq_or_imp]
  have hsorted : ∀ neighbours : Option (List String),
      neighbour ∈ (neighbours.map fun ids => ids.insertionSort (· ≤ ·)).getD [] ↔ neighbour ∈ neighbours.getD [] := by
    intro neighbours
    cases neighbours with
    | none => rfl
    | some ids => exact List.mem_insertionSort _
  unfold adjacentCityIdsByCity Joined
  rw [OrdDict.get?_mapVals, hsorted, hfold]
  simp

theorem sameSide_iff_coalitionKey {owner other : String} {player otherPlayer : PlayerState}
    (hplayer : state.players.get? owner = some player) (hother : state.players.get? other = some otherPlayer) :
    coalitionKey other otherPlayer.allianceId = coalitionKey owner player.allianceId ↔ SameSide state owner other := by
  unfold SameSide
  simp only [MatchState.mem_memberships, hplayer, hother, Option.some.injEq, exists_eq_left']
  constructor
  · intro h
    cases halliance : player.allianceId with
    | none =>
        cases hotherAlliance : otherPlayer.allianceId with
        | none =>
            rw [halliance, hotherAlliance] at h
            exact Or.inl (CoalitionKey.solo.inj h).symm
        | some otherId =>
            rw [halliance, hotherAlliance] at h
            cases h
    | some allianceId =>
        cases hotherAlliance : otherPlayer.allianceId with
        | none =>
            rw [halliance, hotherAlliance] at h
            cases h
        | some otherId =>
            rw [halliance, hotherAlliance] at h
            exact Or.inr ⟨allianceId, rfl, congrArg some (CoalitionKey.alliance.inj h)⟩
  · intro h
    rcases h with rfl | ⟨allianceId, halliance, hotherAlliance⟩
    · rw [hplayer] at hother
      cases hother
      rfl
    · rw [halliance, hotherAlliance]
      rfl

theorem allNeighborsHostile_eq_true (howners : ∀ cityId owner, state.cityOwner cityId = some owner → owner ∈ state.players.keys)
    {owner : String} {player : PlayerState} (hplayer : state.players.get? owner = some player) (cityIds : List String) :
    allNeighborsHostile state owner (coalitionKey owner player.allianceId) cityIds = .ok true ↔
      ∀ cityId ∈ cityIds, ∀ other, state.cityOwner cityId = some other → ¬ SameSide state owner other := by
  induction cityIds with
  | nil => simp [allNeighborsHostile]
  | cons cityId cityIds ih =>
      rw [List.forall_mem_cons]
      unfold allNeighborsHostile
      cases howner : state.cityOwner cityId with
      | none => simp [ih]
      | some other =>
          obtain ⟨otherPlayer, hother⟩ := OrdDict.mem_keys.1 (howners cityId other howner)
          have hsides := sameSide_iff_coalitionKey hplayer hother
          have hlookup : playerCoalition state other = .ok (coalitionKey other otherPlayer.allianceId) := by
            unfold playerCoalition
            rw [hother]
          dsimp only
          rw [hlookup]
          dsimp only
          by_cases hsame : other = owner
          · have hfriend : SameSide state owner other := Or.inl hsame.symm
            simp [hsame ▸ hfriend, hsame]
          · by_cases hfriend : SameSide state owner other
            · simp [hsame, hsides.2 hfriend, hfriend]
            · have hapart : coalitionKey other otherPlayer.allianceId ≠ coalitionKey owner player.allianceId :=
                fun h => hfriend (hsides.1 h)
              simp [hsame, hapart, hfriend, ih]

theorem isBesiegedCity_eq_true (howners : ∀ cityId owner, state.cityOwner cityId = some owner → owner ∈ state.players.keys)
    {cityId : String} {city : CityState} (hcity : state.cities.get? cityId = some city) :
    isBesiegedCity mapDefinition state cityId city = .ok true ↔ Besieged mapDefinition state cityId := by
  have howner : state.cityOwner cityId = city.owner := by
    unfold MatchState.cityOwner
    rw [hcity]
    rfl
  unfold isBesiegedCity Besieged
  simp only [← mem_adjacentCityIdsByCity]
  rw [howner]
  cases hcityOwner : city.owner with
  | none => simp
  | some owner =>
      obtain ⟨player, hplayer⟩ := OrdDict.mem_keys.1 (howners cityId owner (howner.trans hcityOwner))
      have hlookup : playerCoalition state owner = .ok (coalitionKey owner player.allianceId) := by
        unfold playerCoalition
        rw [hplayer]
      dsimp only
      cases ((adjacentCityIdsByCity mapDefinition).get? cityId).getD [] with
      | nil => simp
      | cons neighbour neighbours =>
          dsimp only
          rw [hlookup]
          dsimp only
          rw [allNeighborsHostile_eq_true howners hplayer]
          constructor
          · intro h
            exact ⟨owner, rfl, ⟨neighbour, List.mem_cons_self⟩, h⟩
          · intro h
            obtain ⟨_, hsame, -, hhostile⟩ := h
            cases hsame
            exact hhostile

theorem besieged_congr {state' : MatchState} (howner : state'.cityOwner = state.cityOwner)
    (hmembers : state'.memberships = state.memberships) (cityId : String) :
    Besieged mapDefinition state' cityId ↔ Besieged mapDefinition state cityId := by
  unfold Besieged SameSide
  rw [howner, hmembers]

/-- One step of the siege. -/
theorem degradeIfBesieged_cases {degraded degraded' : MatchState × List String} {cityId : String}
    (howners : ∀ cityId owner, degraded.1.cityOwner cityId = some owner → owner ∈ degraded.1.players.keys)
    (h : degradeIfBesieged mapDefinition degraded cityId = .ok degraded') :
    (Besieged mapDefinition degraded.1 cityId ∧ 0 < degraded.1.fortification cityId ∧
        degraded' = (degradeFortification degraded.1 cityId, degraded.2 ++ [cityId])) ∨
      ((¬ Besieged mapDefinition degraded.1 cityId ∨ degraded.1.fortification cityId = 0) ∧ degraded' = degraded) := by
  unfold degradeIfBesieged at h
  cases hcity : degraded.1.cities.get? cityId with
  | none =>
      rw [hcity] at h
      cases h
      refine Or.inr ⟨Or.inl ?_, rfl⟩
      intro hbesieged
      obtain ⟨owner, howner, -⟩ := hbesieged
      exact OrdDict.get?_eq_none.1 hcity (mem_keys_of_cityOwner howner)
  | some city =>
      rw [hcity] at h
      dsimp only at h
      have hspec : isBesiegedCity mapDefinition degraded.1 cityId city = .ok true ↔ _ := isBesiegedCity_eq_true howners hcity
      have hlevel := fortification_of_get? hcity
      split at h
      · rename_i hplain
        cases h
        refine Or.inr ⟨?_, rfl⟩
        rcases hplain with hunowned | hunfortified
        · refine Or.inl fun hbesieged => ?_
          obtain ⟨owner, howner, -⟩ := hbesieged
          obtain ⟨_, hcity', howner⟩ := MatchState.cityOwner_eq_some.1 howner
          rw [hcity] at hcity'
          cases hcity'
          rw [hunowned] at howner
          cases howner
        · exact Or.inr (hlevel.trans hunfortified)
      · rename_i hplain
        have hfortified : 0 < degraded.1.fortification cityId := by
          rw [hlevel]
          omega
        split at h
        · cases h
        · rename_i hfree
          cases h
          refine Or.inr ⟨Or.inl fun hbesieged => ?_, rfl⟩
          rw [← hspec, hfree] at hbesieged
          cases hbesieged
        · rename_i htrue
          cases h
          exact Or.inl ⟨hspec.1 htrue, hfortified, rfl⟩

/-- The siege takes a level off every besieged city, and remembers those that had one. -/
theorem degradeBesiegedFortifications_lowered {cityIds : List String} (hnodup : cityIds.Nodup)
    {degraded besieged : MatchState × List String}
    (howners : ∀ cityId owner, degraded.1.cityOwner cityId = some owner → owner ∈ degraded.1.players.keys)
    (h : cityIds.foldlM (degradeIfBesieged mapDefinition) degraded = .ok besieged) :
    Lowered (fun cityId => cityId ∈ cityIds ∧ Besieged mapDefinition degraded.1 cityId) degraded.1 besieged.1 ∧
      ∀ cityId, cityId ∈ besieged.2 ↔ cityId ∈ degraded.2 ∨
        (cityId ∈ cityIds ∧ Besieged mapDefinition degraded.1 cityId ∧ 0 < degraded.1.fortification cityId) := by
  induction cityIds generalizing degraded with
  | nil =>
      cases h
      exact ⟨⟨by simp, by simp⟩, by simp⟩
  | cons head cityIds ih =>
      obtain ⟨hhead, hnodup⟩ := List.nodup_cons.1 hnodup
      obtain ⟨next, hfirst, hrest⟩ := Run.foldlM_cons_eq_ok h
      rcases degradeIfBesieged_cases howners hfirst with ⟨hbesieged, hfortified, rfl⟩ | ⟨hspared, rfl⟩
      · have hestate := estate_degradeFortification degraded.1 head
        have howner : (degradeFortification degraded.1 head).cityOwner = degraded.1.cityOwner :=
          congrArg (fun e => e.2.1) hestate
        have hkept : ∀ cityId, Besieged mapDefinition (degradeFortification degraded.1 head) cityId ↔
            Besieged mapDefinition degraded.1 cityId := besieged_congr howner rfl
        obtain ⟨hlowered, hremembered⟩ := ih hnodup (by rwa [howner]) hrest
        simp only [hkept] at hlowered hremembered
        have hlevel := fortification_degradeFortification degraded.1 head
        refine ⟨⟨?_, ?_⟩, ?_⟩
        · intro cityId hworn
          by_cases hsame : cityId = head
          · subst hsame
            rw [hlowered.kept cityId (fun hagain => hhead hagain.1), hlevel, if_pos rfl]
          · have hmem := (List.mem_cons.1 hworn.1).resolve_left hsame
            rw [hlowered.lowered cityId ⟨hmem, hworn.2⟩, hlevel, if_neg hsame]
        · intro cityId hfree
          have hne : cityId ≠ head := fun hsame => hfree ⟨hsame ▸ List.mem_cons_self, hsame ▸ hbesieged⟩
          rw [hlowered.kept cityId (fun hworn => hfree ⟨List.mem_cons_of_mem head hworn.1, hworn.2⟩), hlevel, if_neg hne]
        · intro cityId
          rw [hremembered, hlevel, List.mem_append, List.mem_singleton, List.mem_cons]
          by_cases hsame : cityId = head
          · subst hsame
            simp [hbesieged, hfortified]
          · simp [hsame]
      · obtain ⟨hlowered, hremembered⟩ := ih hnodup howners hrest
        refine ⟨⟨?_, ?_⟩, ?_⟩
        · intro cityId hworn
          rcases List.mem_cons.1 hworn.1 with rfl | hmem
          · have hzero := hspared.resolve_left (not_not.2 hworn.2)
            rw [hlowered.kept cityId (fun hagain => hhead hagain.1), hzero]
          · exact hlowered.lowered cityId ⟨hmem, hworn.2⟩
        · intro cityId hfree
          exact hlowered.kept cityId fun hworn => hfree ⟨List.mem_cons_of_mem head hworn.1, hworn.2⟩
        · intro cityId
          rw [hremembered, List.mem_cons]
          by_cases hsame : cityId = head
          · subst hsame
            have hspared' : Besieged mapDefinition next.1 cityId → ¬ 0 < next.1.fortification cityId := by
              intro hbesieged hfortified
              rcases hspared with hfree | hzero
              · exact hfree hbesieged
              · omega
            simp only [hhead, false_and, or_false, true_and]
            exact ⟨Or.inl, fun h => h.resolve_right fun hworn => hspared' hworn.1 hworn.2⟩
          · simp [hsame]

end Siege

/-! ### Unpaid upkeep -/

/-- What was not paid for loses a level, unless the siege has taken one. -/
theorem degradeUnpaid_lowered (cityIds : List String) (degraded : MatchState × List String) :
    Lowered (fun cityId => cityId ∈ cityIds ∧ cityId ∉ degraded.2) degraded.1
      (cityIds.foldl degradeIfUnpaid degraded).1 := by
  induction cityIds generalizing degraded with
  | nil => exact ⟨by simp, by simp⟩
  | cons head cityIds ih =>
      rw [List.foldl_cons]
      have hrest := ih (degradeIfUnpaid degraded head)
      by_cases hworn : head ∈ degraded.2
      · have hsame : degradeIfUnpaid degraded head = degraded := by
          unfold degradeIfUnpaid
          rw [if_pos hworn]
        rw [hsame] at hrest ⊢
        refine ⟨?_, ?_⟩
        · intro cityId hunpaid
          rcases List.mem_cons.1 hunpaid.1 with rfl | hmem
          · exact absurd hworn hunpaid.2
          · exact hrest.lowered cityId ⟨hmem, hunpaid.2⟩
        · intro cityId hfree
          exact hrest.kept cityId fun hunpaid => hfree ⟨List.mem_cons_of_mem head hunpaid.1, hunpaid.2⟩
      · by_cases hzero : degraded.1.fortification head = 0
        · have hsame : degradeIfUnpaid degraded head = degraded := by
            unfold degradeIfUnpaid
            rw [if_neg hworn]
            cases hcity : degraded.1.cities.get? head with
            | none => rfl
            | some city =>
                rw [fortification_of_get? hcity] at hzero
                exact if_pos hzero
          rw [hsame] at hrest ⊢
          have hhead : (cityIds.foldl degradeIfUnpaid degraded).1.fortification head = degraded.1.fortification head := by
            by_cases hagain : head ∈ cityIds
            · rw [hrest.lowered head ⟨hagain, hworn⟩, hzero]
            · exact hrest.kept head fun hunpaid => hagain hunpaid.1
          refine ⟨?_, ?_⟩
          · intro cityId hunpaid
            by_cases hcity : cityId = head
            · rw [hcity, hhead, hzero]
            · exact hrest.lowered cityId ⟨(List.mem_cons.1 hunpaid.1).resolve_left hcity, hunpaid.2⟩
          · intro cityId hfree
            exact hrest.kept cityId fun hunpaid => hfree ⟨List.mem_cons_of_mem head hunpaid.1, hunpaid.2⟩
        · have hstep : degradeIfUnpaid degraded head = (degradeFortification degraded.1 head, degraded.2 ++ [head]) := by
            unfold degradeIfUnpaid
            rw [if_neg hworn]
            cases hcity : degraded.1.cities.get? head with
            | none =>
                unfold MatchState.fortification cityView at hzero
                rw [hcity] at hzero
                exact absurd rfl hzero
            | some city =>
                rw [fortification_of_get? hcity] at hzero
                exact if_neg hzero
          have hlevel := fortification_degradeFortification degraded.1 head
          rw [hstep] at hrest ⊢
          refine ⟨?_, ?_⟩
          · intro cityId hunpaid
            by_cases hcity : cityId = head
            · rw [hrest.kept cityId (by simp [hcity]), hlevel, if_pos hcity]
            · have hmem := (List.mem_cons.1 hunpaid.1).resolve_left hcity
              rw [hrest.lowered cityId (by simp [hmem, hunpaid.2, hcity]), hlevel, if_neg hcity]
          · intro cityId hfree
            have hcity : cityId ≠ head := fun hcity => hfree ⟨hcity ▸ List.mem_cons_self, hcity ▸ hworn⟩
            rw [hrest.kept cityId _, hlevel, if_neg hcity]
            intro hunpaid
            rw [List.mem_append, not_or] at hunpaid
            exact hfree ⟨List.mem_cons_of_mem head hunpaid.1, hunpaid.2.1⟩

/-! ### The tick -/

/-- Of the cities of a player, the fortified ones that are due before a city. -/
def dueBefore (state : MatchState) (playerId cityId : String) : List (String × CityState) :=
  (state.cities.entries.filter fun entry =>
    entry.2.owner = some playerId ∧ 0 < entry.2.upgrades.fortification).filter fun entry => entry.1 < cityId

/-- A player pays for the fortified cities in the order of their ids, for each exactly when the money left covers it. -/
structure UpkeepInOrder (state : MatchState) (unpaid : List String) : Prop where
  due : ∀ cityId ∈ unpaid, ∃ city playerId, state.cities.get? cityId = some city ∧ city.owner = some playerId ∧
    0 < city.upgrades.fortification
  paid : ∀ playerId player, state.players.get? playerId = some player →
    ∀ cityId city, state.cities.get? cityId = some city → city.owner = some playerId → 0 < city.upgrades.fortification →
      (cityId ∉ unpaid ↔ upkeepCost city ≤
        availableMoney state playerId player.resources - paidUpkeep unpaid (dueBefore state playerId cityId))

theorem upkeepInOrder {state supplied : MatchState} {phaseState phaseState' : ResolverPhaseState}
    (h : resolveResourcePhase state phaseState = .ok (supplied, phaseState')) :
    UpkeepInOrder state phaseState'.unpaidFortificationCityIds := by
  refine ⟨?_, ?_⟩
  · intro cityId hunpaid
    rw [unpaidFortificationCityIds_eq h, List.mem_flatMap] at hunpaid
    obtain ⟨⟨playerId, player⟩, -, hunpaid⟩ := hunpaid
    obtain ⟨entry, hentry, rfl⟩ := List.mem_map.1 (unpaidOf_subset _ _ _ hunpaid)
    obtain ⟨hcity, howner, hfortified⟩ := mem_fortifiedCities.1 hentry
    exact ⟨entry.2, playerId, hcity, howner, hfortified⟩
  intro playerId player hplayer cityId city hcity howner hfortified
  have hentry : (cityId, city) ∈ fortifiedCitiesInUpkeepOrder state playerId :=
    mem_fortifiedCities.2 ⟨hcity, howner, hfortified⟩
  obtain ⟨first, rest, hsplit⟩ := List.append_of_mem hentry
  have hnodup := fortifiedCities_nodup state playerId
  have hsorted : (fortifiedCitiesInUpkeepOrder state playerId).Pairwise fun a b => a.1 ≤ b.1 :=
    pairwise_key_insertionSort _
  have hdue : first.Perm (dueBefore state playerId cityId) := by
    have hperm := (fortifiedCities_perm state playerId).filter fun other => other.1 < cityId
    rw [hsplit] at hsorted hnodup hperm
    rwa [filter_lt_of_split hsorted hnodup] at hperm
  have hpaid : ∀ unpaid, paidUpkeep unpaid first = paidUpkeep unpaid (dueBefore state playerId cityId) := by
    intro unpaid
    unfold paidUpkeep
    rw [((hdue.filter _).map _).sum_eq]
  have hearlier : paidUpkeep phaseState'.unpaidFortificationCityIds first =
      paidUpkeep (unpaidFortifications state playerId player.resources) first := by
    apply paidUpkeep_congr
    intro entry hmem
    apply mem_unpaidFortificationCityIds h hplayer
    rw [hsplit]
    exact List.mem_append_left _ hmem
  rw [mem_unpaidFortificationCityIds h hplayer hentry, ← hpaid, hearlier, unpaidFortifications_eq, hsplit]
  rw [hsplit] at hnodup
  exact not_mem_unpaidOf_iff hnodup

/-- Of all fortifications, those of besieged cities and those not paid for lose one level in a tick, and the others none. -/
structure FortificationWear (mapDefinition : MapDefinition) (built fought next : MatchState) (unpaid : List String) : Prop where
  worn : ∀ cityId, 0 < built.fortification cityId → Besieged mapDefinition fought cityId ∨ cityId ∈ unpaid →
    next.fortification cityId + 1 = built.fortification cityId
  kept : ∀ cityId, ¬ (0 < built.fortification cityId ∧ (Besieged mapDefinition fought cityId ∨ cityId ∈ unpaid)) →
    next.fortification cityId = built.fortification cityId

theorem fortification_resolveCombatPhase (state : MatchState) (cityId : String) :
    (resolveCombatPhase state).fortification cityId = state.fortification cityId := by
  unfold MatchState.fortification
  rw [cityView_resolveCombatPhase fun _ _ => rfl]

theorem degradedFortificationCityIds_eq {state supplied : MatchState} {phaseState phaseState' : ResolverPhaseState}
    (h : resolveResourcePhase state phaseState = .ok (supplied, phaseState')) :
    phaseState'.degradedFortificationCityIds = [] := by
  unfold resolveResourcePhase at h
  dsimp only at h
  split at h
  · cases h
    rfl
  · cases h

section Tick

variable {mapDefinition : MapDefinition} {state : MatchState}

/-- Combat hands cities to players only. -/
theorem owners_resolveCombatPhase
    (howners : ∀ cityId owner, state.cityOwner cityId = some owner → owner ∈ state.players.keys) :
    ∀ cityId owner, (resolveCombatPhase state).cityOwner cityId = some owner → owner ∈ (resolveCombatPhase state).players.keys := by
  have hstep : ∀ (board : MatchState) (cityId : String),
      (∀ cityId owner, board.cityOwner cityId = some owner → owner ∈ board.players.keys) →
        ∀ other owner, (transferCityControl board cityId).cityOwner other = some owner →
          owner ∈ (transferCityControl board cityId).players.keys := by
    intro board cityId hboard other owner howner
    rw [keys_of_tickFrame (tickFrame_transferCityControl board cityId)]
    rcases transferCityControl_cases board cityId with hsame | ⟨city, occupying, hcity, -, hplayer, -, hcontrol⟩
    · rw [hsame] at howner
      exact hboard other owner howner
    · rw [hcontrol, (controlled_frame board cityId occupying city.owner).1,
        cityOwner_setCityOwner (OrdDict.mem_keys_of_get? hcity)] at howner
      split at howner
      · cases howner
        exact hplayer
      · exact hboard other owner howner
  exact Run.invariant_foldl (s := resolveContestedCityCombat state)
    (I := fun board => ∀ cityId owner, board.cityOwner cityId = some owner → owner ∈ board.players.keys)
    hstep howners _

theorem fortificationWear {besieged : MatchState} {phaseState : ResolverPhaseState} {degradedCityIds : List String}
    (howners : ∀ cityId owner, (resolveCombatPhase state).cityOwner cityId = some owner →
      owner ∈ (resolveCombatPhase state).players.keys)
    (hdegraded : phaseState.degradedFortificationCityIds = [])
    (hbesieged : degradeBesiegedFortifications mapDefinition (resolveCombatPhase state)
      phaseState.degradedFortificationCityIds = .ok (besieged, degradedCityIds)) :
    FortificationWear mapDefinition state (resolveCombatPhase state)
      (resolveAttritionPhase besieged { phaseState with degradedFortificationCityIds := degradedCityIds }).1
      phaseState.unpaidFortificationCityIds := by
  have hnodup : ((resolveCombatPhase state).cities.keys.insertionSort (· ≤ ·)).Nodup :=
    (List.perm_insertionSort _ _).nodup_iff.2 (resolveCombatPhase state).cities.keys_nodup
  obtain ⟨hsieged, hremembered⟩ := degradeBesiegedFortifications_lowered hnodup howners hbesieged
  have hunpaid := degradeUnpaid_lowered (phaseState.unpaidFortificationCityIds.insertionSort (· ≤ ·))
    (sufferAttrition besieged, degradedCityIds)
  have hnext : ∀ cityId, (resolveAttritionPhase besieged
      { phaseState with degradedFortificationCityIds := degradedCityIds }).1.fortification cityId =
        ((phaseState.unpaidFortificationCityIds.insertionSort (· ≤ ·)).foldl degradeIfUnpaid
          (sufferAttrition besieged, degradedCityIds)).1.fortification cityId := fun _ => rfl
  have hsuffered : ∀ cityId, (sufferAttrition besieged).fortification cityId = besieged.fortification cityId :=
    fun _ => rfl
  have hbefore := fortification_resolveCombatPhase state
  rw [hdegraded] at hremembered
  simp only [List.mem_insertionSort, List.not_mem_nil, false_or, hbefore] at hsieged hremembered hunpaid
  have hknown : ∀ cityId, Besieged mapDefinition (resolveCombatPhase state) cityId →
      cityId ∈ (resolveCombatPhase state).cities.keys := by
    intro cityId hcity
    obtain ⟨owner, howner, -⟩ := hcity
    exact mem_keys_of_cityOwner howner
  refine ⟨?_, ?_⟩
  · intro cityId hfortified hcause
    rw [hnext]
    by_cases hsiege : Besieged mapDefinition (resolveCombatPhase state) cityId
    · have hpassed : cityId ∈ degradedCityIds := (hremembered cityId).2 ⟨hknown cityId hsiege, hsiege, hfortified⟩
      have hlevel := hunpaid.kept cityId fun h => h.2 hpassed
      have hworn := hsieged.lowered cityId ⟨hknown cityId hsiege, hsiege⟩
      simp only [hsuffered, hbefore] at hlevel hworn
      omega
    · have hfree : cityId ∉ degradedCityIds := fun h => hsiege ((hremembered cityId).1 h).2.1
      have hlevel := hunpaid.lowered cityId ⟨hcause.resolve_left hsiege, hfree⟩
      have hkept := hsieged.kept cityId fun h => hsiege h.2
      simp only [hsuffered, hbefore] at hlevel hkept
      omega
  · intro cityId hspared
    rw [hnext]
    by_cases hfortified : 0 < state.fortification cityId
    · have hsiege : ¬ Besieged mapDefinition (resolveCombatPhase state) cityId :=
        fun h => hspared ⟨hfortified, Or.inl h⟩
      have hpaid : cityId ∉ phaseState.unpaidFortificationCityIds := fun h => hspared ⟨hfortified, Or.inr h⟩
      have hlevel := hunpaid.kept cityId fun h => hpaid h.1
      have hkept := hsieged.kept cityId fun h => hsiege h.2
      simp only [hsuffered, hbefore] at hlevel hkept
      omega
    · -- Without a level there is nothing to lose, whatever the causes.
      have hsieged' := hsieged.le cityId
      have hunpaid' := hunpaid.le cityId
      simp only [hsuffered, hbefore] at hsieged' hunpaid'
      omega

end Tick

/-- In a tick of a valid state each fortification loses a level or none: the besieged and the unpaid ones lose one. -/
theorem resolveTick_wear {state : MatchState} (hvalid : state.FieldsValid)
    (howners : ∀ cityId owner, state.cityOwner cityId = some owner → owner ∈ state.players.keys) (orders : OrderBatch)
    (mapDefinition : Option MapDefinition) :
    ∃ supplied phaseState resolution,
      resolveResourcePhase state ⟨resolveMapDefinition mapDefinition, [], []⟩ = .ok (supplied, phaseState) ∧
      resolveTick state orders mapDefinition = .ok resolution ∧
      UpkeepInOrder state phaseState.unpaidFortificationCityIds ∧
      FortificationWear (resolveMapDefinition mapDefinition) (resolveBuildPhase supplied orders)
        (resolveCombatPhase (resolveMovementPhase (resolveMapDefinition mapDefinition) (resolveBuildPhase supplied orders)
          orders))
        resolution.nextState phaseState.unpaidFortificationCityIds ∧
      resolution.nextState.cities.keys = state.cities.keys ∧
      ∀ state', Reordered state state' → ∃ resolution', resolveTick state' orders mapDefinition = .ok resolution' ∧
        Reordered resolution.nextState resolution'.nextState := by
  obtain ⟨supplied, phaseState, hresource⟩ :=
    resolveResourcePhase_total (supplied_of_fieldsValid hvalid) ⟨resolveMapDefinition mapDefinition, [], []⟩
  have hestate : estate (resolveMovementPhase (resolveMapDefinition mapDefinition) (resolveBuildPhase supplied orders)
      orders) = estate state := by
    rw [estate_resolveMovementPhase, estate_resolveBuildPhase, (estate_resolveResourcePhase hresource).1]
  have hmovedOwners : ∀ cityId owner, (resolveMovementPhase (resolveMapDefinition mapDefinition)
      (resolveBuildPhase supplied orders) orders).cityOwner cityId = some owner →
        owner ∈ (resolveMovementPhase (resolveMapDefinition mapDefinition) (resolveBuildPhase supplied orders)
          orders).players.keys := by
    intro cityId owner howner
    rw [keys_of_estate hestate]
    exact howners cityId owner ((congrFun (congrArg (fun e => e.2.1) hestate) cityId).symm.trans howner)
  have hfought := owners_resolveCombatPhase hmovedOwners
  obtain ⟨⟨besieged, degradedCityIds⟩, hbesieged⟩ := degradeBesiegedFortifications_total hfought
    (resolveMapDefinition mapDefinition) phaseState.degradedFortificationCityIds
  have hwear := fortificationWear hfought (degradedFortificationCityIds_eq hresource) hbesieged
  have hsettled : resolveThroughDiplomacy state orders (resolveMapDefinition mapDefinition) =
      .ok (resolveAttritionPhase besieged { phaseState with degradedFortificationCityIds := degradedCityIds }).1 := by
    unfold resolveThroughDiplomacy resolveThroughSiege
    rw [hresource]
    dsimp only
    rw [hbesieged]
  have hresolved : resolveTick state orders mapDefinition = .ok ⟨resolveVictoryPhase (resolveAttritionPhase besieged
      { phaseState with degradedFortificationCityIds := degradedCityIds }).1, completedPhases, completedEvents⟩ := by
    unfold resolveTick
    rw [hsettled]
  refine ⟨supplied, phaseState, _, hresource, hresolved, upkeepInOrder hresource, ?_, ?_, ?_⟩
  · have hmoved := fortification_congr (cities_resolveMovementPhase (resolveMapDefinition mapDefinition)
      (resolveBuildPhase supplied orders) orders)
    refine ⟨?_, ?_⟩
    · intro cityId hfortified hcause
      rw [← hmoved] at hfortified ⊢
      exact hwear.worn cityId hfortified hcause
    · intro cityId hspared
      rw [← hmoved] at hspared ⊢
      exact hwear.kept cityId hspared
  · have hkeys := keys_resolveThroughDiplomacy hsettled
    exact hkeys
  · intro state' hstate
    exact hstate.resolveTick hresolved

/-- The duel with fortresses that their owners cannot pay for, London's under siege. -/
def siegeState : MatchState :=
  { duelState with
    cities := OrdDict.ofList
      [("london", { duelCity "p1" with resources := ⟨3, 3, 0⟩, upgrades := ⟨0, 0, 2⟩ }),
        ("southampton", { duelCity "p2" with resources := ⟨3, 3, 0⟩, upgrades := ⟨0, 0, 1⟩ })]
    players := OrdDict.ofList
      [("p1", { duelPlayer "london" with resources := ⟨10, 10, 0⟩ }),
        ("p2", { duelPlayer "southampton" with resources := ⟨10, 10, 0⟩ })] }

theorem siegeState_owners :
    ∀ cityId owner, siegeState.cityOwner cityId = some owner → owner ∈ siegeState.players.keys := by
  intro cityId owner howner
  obtain ⟨city, hcity, hcityOwner⟩ := MatchState.cityOwner_eq_some.1 howner
  have hall : ∀ city ∈ siegeState.cities.values, ∀ owner ∈ city.owner, owner ∈ siegeState.players.keys := by decide +kernel
  exact hall city (OrdDict.mem_values.2 ⟨cityId, hcity⟩) owner hcityOwner

theorem resolveTick_wear_siege :
    ∃ supplied phaseState resolution,
      resolveResourcePhase siegeState ⟨resolveMapDefinition none, [], []⟩ = .ok (supplied, phaseState) ∧
      resolveTick siegeState OrderBatch.empty none = .ok resolution ∧
      UpkeepInOrder siegeState phaseState.unpaidFortificationCityIds ∧
      FortificationWear (resolveMapDefinition none) (resolveBuildPhase supplied OrderBatch.empty)
        (resolveCombatPhase (resolveMovementPhase (resolveMapDefinition none)
          (resolveBuildPhase supplied OrderBatch.empty) OrderBatch.empty))
        resolution.nextState phaseState.unpaidFortificationCityIds ∧
      resolution.nextState.cities.keys = siegeState.cities.keys ∧
      ∀ state', Reordered siegeState state' → ∃ resolution', resolveTick state' OrderBatch.empty none = .ok resolution' ∧
        Reordered resolution.nextState resolution'.nextState :=
  resolveTick_wear (by decide) siegeState_owners OrderBatch.empty none

end IronCouncil
