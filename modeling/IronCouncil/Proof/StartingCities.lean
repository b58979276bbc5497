import IronCouncil.Proof.StartingShares

/-!
# The starting cities of a match

The roster's overrides are written first, and then a search gives every player the cities it still lacks. The search finds starting cities whenever there are some that the overrides can be extended to, and what it finds is such a choice.
-/

namespace IronCouncil

/-! ### Starting plans -/

def AdjacentCities (mapDefinition : MapDefinition) (cityA cityB : String) : Prop :=
  ∃ edge ∈ mapDefinition.edges, edge.joins cityA cityB

def LegalSpawn (mapDefinition : MapDefinition) (cityId : String) : Prop :=
  ∃ city, mapDefinition.cities.get? cityId = some city ∧ city.spawnAllowed = true ∧ city.region ≠ "Ireland"

/-- Legal starting cities for each player of a roster, as many as the match gives, with no two players in one city or next to each other. -/
structure IsStartingPlan (mapDefinition : MapDefinition) (roster : List MatchRosterEntry) (cityCount : Nat)
    (given : String → List String) : Prop where
  overrides : ∀ entry ∈ roster, ∀ startingCityIds, entry.startingCityIds = some startingCityIds →
    startingCityIds ⊆ given entry.playerId
  length : ∀ playerId ∈ roster.map (·.playerId), (given playerId).length = cityCount
  nodup : ∀ playerId ∈ roster.map (·.playerId), (given playerId).Nodup
  legal : ∀ playerId ∈ roster.map (·.playerId), ∀ cityId ∈ given playerId, LegalSpawn mapDefinition cityId
  apart : ∀ first ∈ roster.map (·.playerId), ∀ second ∈ roster.map (·.playerId), first ≠ second →
    ∀ cityA ∈ given first, ∀ cityB ∈ given second, cityA ≠ cityB ∧ ¬AdjacentCities mapDefinition cityA cityB

theorem AdjacentCities.symm {mapDefinition : MapDefinition} {cityA cityB : String}
    (h : AdjacentCities mapDefinition cityA cityB) : AdjacentCities mapDefinition cityB cityA := by
  obtain ⟨edge, hedge, hjoins⟩ := h
  exact ⟨edge, hedge, MapEdge.joins_comm.1 hjoins⟩

section Search

variable {mapDefinition : MapDefinition}

/-! ### The tests of the source -/

theorem buildAdjacencyLookup_eq (mapDefinition : MapDefinition) :
    buildAdjacencyLookup mapDefinition = mapDefinition.edges.foldl (Graph.link MapEdge.cityA MapEdge.cityB)
      (mapDefinition.cities.mapVals fun _ _ => []) := rfl

theorem mem_buildAdjacencyLookup {cityA cityB : String} :
    cityB ∈ ((buildAdjacencyLookup mapDefinition).get? cityA).getD [] ↔ AdjacentCities mapDefinition cityA cityB := by
  rw [buildAdjacencyLookup_eq]
  refine (Graph.mem_neighbors_foldl ?_).trans ?_
  · intro edge hedge
    rw [OrdDict.keys_mapVals]
    exact mapDefinition.edges_known edge hedge
  · simp only [Graph.neighbors_unlinked, List.not_mem_nil, false_or]
    rfl

theorem mem_legalSpawnCityIds {cityId : String} :
    cityId ∈ legalSpawnCityIds mapDefinition ↔ LegalSpawn mapDefinition cityId := by
  simp only [legalSpawnCityIds, LegalSpawn, List.mem_insertionSort, List.mem_map, List.mem_filter, Prod.exists,
    OrdDict.get?_eq_some]
  grind

/-- A city is free for a player, and no other player is next to it. -/
def FreeFor (mapDefinition : MapDefinition) (owners : OrdDict String String) (cityId playerId : String) : Prop :=
  owners.get? cityId = none ∧
    ∀ other owner, AdjacentCities mapDefinition cityId other → owners.get? other = some owner → owner = playerId

theorem foreignNeighbours_eq_nil {owners : OrdDict String String} {cityId playerId : String} :
    foreignNeighbours (buildAdjacencyLookup mapDefinition) owners cityId playerId = [] ↔
      ∀ other owner, AdjacentCities mapDefinition cityId other → owners.get? other = some owner → owner = playerId := by
  rw [foreignNeighbours, List.filterMap_eq_nil_iff]
  simp only [mem_buildAdjacencyLookup, Option.bind_eq_none_iff, ite_eq_left_iff, reduceCtorEq, imp_false, not_not]
  exact ⟨fun h other owner hadjacent howner => h other hadjacent owner howner,
    fun h other hadjacent owner howner => h other owner hadjacent howner⟩

theorem canAssignCity_iff {owners : OrdDict String String} {cityId playerId : String} :
    canAssignCity (buildAdjacencyLookup mapDefinition) owners cityId playerId = true ↔
      FreeFor mapDefinition owners cityId playerId := by
  rw [canAssignCity, decide_eq_true_eq, foreignNeighbours_eq_nil, FreeFor]

theorem validateStartingCity_eq_ok {owners : OrdDict String String} {cityId playerId : String} :
    validateStartingCity mapDefinition (buildAdjacencyLookup mapDefinition) owners cityId playerId = .ok () ↔
      LegalSpawn mapDefinition cityId ∧ FreeFor mapDefinition owners cityId playerId := by
  unfold validateStartingCity LegalSpawn FreeFor
  rw [← foreignNeighbours_eq_nil]
  cases mapDefinition.cities.get? cityId with
  | none => simp
  | some city =>
      cases foreignNeighbours (buildAdjacencyLookup mapDefinition) owners cityId playerId with
      | nil => simp; grind
      | cons neighbour neighbours => simp; grind

/-! ### The shared dictionaries -/

def StartingAssignments.citiesOf (assignments : StartingAssignments) (playerId : String) : List String :=
  (assignments.assignmentsByPlayer.get? playerId).getD []

/-- The two dictionaries say the same, and what they say breaks no rule. -/
structure StartingAssignments.Sound (mapDefinition : MapDefinition) (assignments : StartingAssignments) : Prop where
  owner_iff : ∀ cityId playerId,
    assignments.assignedCityOwners.get? cityId = some playerId ↔ cityId ∈ assignments.citiesOf playerId
  nodup : ∀ playerId, (assignments.citiesOf playerId).Nodup
  legal : ∀ playerId, ∀ cityId ∈ assignments.citiesOf playerId, LegalSpawn mapDefinition cityId
  apart : ∀ first second, ∀ cityA ∈ assignments.citiesOf first, ∀ cityB ∈ assignments.citiesOf second,
    AdjacentCities mapDefinition cityA cityB → first = second

theorem citiesOf_assign {assignments : StartingAssignments} (cityId : String) {playerId : String}
    (h : playerId ∈ assignments.assignmentsByPlayer.keys) (other : String) :
    (assignments.assign cityId playerId).citiesOf other =
      if other = playerId then assignments.citiesOf other ++ [cityId] else assignments.citiesOf other := by
  obtain ⟨cities, hcities⟩ := OrdDict.mem_keys.1 h
  unfold StartingAssignments.citiesOf StartingAssignments.assign
  rw [OrdDict.get?_modify]
  split
  · rename_i hother
    simp [hother, hcities]
  · rfl

theorem keys_assign (assignments : StartingAssignments) (cityId playerId : String) :
    (assignments.assign cityId playerId).assignmentsByPlayer.keys = assignments.assignmentsByPlayer.keys :=
  OrdDict.keys_modify _ _ _

theorem StartingAssignments.Sound.assign {assignments : StartingAssignments} (h : assignments.Sound mapDefinition)
    {cityId playerId : String} (hplayer : playerId ∈ assignments.assignmentsByPlayer.keys)
    (hlegal : LegalSpawn mapDefinition cityId)
    (hfree : FreeFor mapDefinition assignments.assignedCityOwners cityId playerId) :
    (assignments.assign cityId playerId).Sound mapDefinition := by
  have hnew : ∀ other, cityId ∉ assignments.citiesOf other := by
    intro other hmem
    have howner := (h.owner_iff cityId other).2 hmem
    rw [hfree.1] at howner
    cases howner
  have hmem : ∀ {city other}, city ∈ (assignments.assign cityId playerId).citiesOf other ↔
      city ∈ assignments.citiesOf other ∨ (other = playerId ∧ city = cityId) := by
    intro city other
    rw [citiesOf_assign cityId hplayer]
    split
    · rename_i hother
      simp [hother]
    · rename_i hother
      simp [hother]
  refine ⟨?_, ?_, ?_, ?_⟩
  · intro city other
    rw [hmem, ← h.owner_iff]
    change (assignments.assignedCityOwners.insert cityId playerId).get? city = some other ↔ _
    rw [OrdDict.get?_insert]
    split
    · rename_i hcity
      rw [hcity, hfree.1]
      simp [eq_comm]
    · rename_i hcity
      simp [hcity]
  · intro other
    rw [citiesOf_assign cityId hplayer]
    split
    · exact (h.nodup other).append (List.nodup_singleton _) (by simpa using hnew other)
    · exact h.nodup other
  · intro other city hcity
    rcases hmem.1 hcity with hcity | ⟨-, rfl⟩
    · exact h.legal other city hcity
    · exact hlegal
  · intro first second cityA hcityA cityB hcityB hadjacent
    rcases hmem.1 hcityA with holdA | ⟨hfirst, rfl⟩
    · rcases hmem.1 hcityB with holdB | ⟨hsecond, rfl⟩
      · exact h.apart first second cityA holdA cityB holdB hadjacent
      · exact (hfree.2 cityA first hadjacent.symm ((h.owner_iff cityA first).2 holdA)).trans hsecond.symm
    · rcases hmem.1 hcityB with holdB | ⟨hsecond, -⟩
      · exact hfirst.trans (hfree.2 cityB second hadjacent ((h.owner_iff cityB second).2 holdB)).symm
      · exact hfirst.trans hsecond.symm

theorem sound_empty : StartingAssignments.Sound mapDefinition ⟨OrdDict.empty, OrdDict.empty⟩ := by
  have hnone : ∀ playerId, StartingAssignments.citiesOf ⟨OrdDict.empty, OrdDict.empty⟩ playerId = [] := fun _ => rfl
  refine ⟨?_, ?_, ?_, ?_⟩ <;> simp [hnone]

/-! ### One roster entry -/

def StartingAssignments.seat (assignments : StartingAssignments) (playerId : String) : StartingAssignments :=
  { assignments with assignmentsByPlayer := assignments.assignmentsByPlayer.insert playerId [] }

theorem citiesOf_seat {assignments : StartingAssignments} {playerId : String}
    (h : playerId ∉ assignments.assignmentsByPlayer.keys) :
    (assignments.seat playerId).citiesOf = assignments.citiesOf := by
  funext other
  unfold StartingAssignments.citiesOf StartingAssignments.seat
  rw [OrdDict.get?_insert]
  split
  · rename_i hother
    rw [hother, OrdDict.get?_eq_none.2 h]
    rfl
  · rfl

theorem StartingAssignments.Sound.of_citiesOf {assignments assigned : StartingAssignments}
    (h : assignments.Sound mapDefinition) (howners : assigned.assignedCityOwners = assignments.assignedCityOwners)
    (hcities : assigned.citiesOf = assignments.citiesOf) : assigned.Sound mapDefinition := by
  refine ⟨?_, ?_, ?_, ?_⟩
  · rw [howners, hcities]
    exact h.owner_iff
  · rw [hcities]
    exact h.nodup
  · rw [hcities]
    exact h.legal
  · rw [hcities]
    exact h.apart

theorem assignOverrideCity_eq_ok {playerId cityId : String} {progress next : StartingAssignments × List String} :
    assignOverrideCity mapDefinition (buildAdjacencyLookup mapDefinition) playerId progress cityId = .ok next ↔
      cityId ∉ progress.2 ∧ LegalSpawn mapDefinition cityId ∧
        FreeFor mapDefinition progress.1.assignedCityOwners cityId playerId ∧
        next = (progress.1.assign cityId playerId, cityId :: progress.2) := by
  unfold assignOverrideCity
  rw [← and_assoc (a := LegalSpawn mapDefinition cityId), ← validateStartingCity_eq_ok]
  split
  · simp_all
  · cases hvalid : validateStartingCity mapDefinition (buildAdjacencyLookup mapDefinition)
        progress.1.assignedCityOwners cityId playerId with
    | error error => simp
    | ok _ => simp_all [eq_comm]

/-- What has been written for a player once its override is through. -/
structure Written (mapDefinition : MapDefinition) (playerId : String) (before after : StartingAssignments)
    (cityIds : List String) : Prop where
  sound : after.Sound mapDefinition
  keys : after.assignmentsByPlayer.keys = before.assignmentsByPlayer.keys
  own : after.citiesOf playerId = before.citiesOf playerId ++ cityIds
  others : ∀ other, other ≠ playerId → after.citiesOf other = before.citiesOf other

theorem written_of_overrides {playerId : String} {cityIds : List String}
    {progress final : StartingAssignments × List String} (hsound : progress.1.Sound mapDefinition)
    (hplayer : playerId ∈ progress.1.assignmentsByPlayer.keys)
    (h : cityIds.foldlM (assignOverrideCity mapDefinition (buildAdjacencyLookup mapDefinition) playerId) progress =
      .ok final) : Written mapDefinition playerId progress.1 final.1 cityIds := by
  induction cityIds generalizing progress with
  | nil =>
      cases h
      exact ⟨hsound, rfl, (List.append_nil _).symm, fun _ _ => rfl⟩
  | cons cityId cityIds ih =>
      obtain ⟨next, hnext, hrest⟩ := Run.foldlM_cons_eq_ok h
      obtain ⟨-, hlegal, hfree, rfl⟩ := assignOverrideCity_eq_ok.1 hnext
      have hkeys := keys_assign progress.1 cityId playerId
      have hwritten := ih (hsound.assign hplayer hlegal hfree) (by rwa [hkeys]) hrest
      refine ⟨hwritten.sound, hwritten.keys.trans hkeys, ?_, ?_⟩
      · rw [hwritten.own, citiesOf_assign cityId hplayer, if_pos rfl, List.append_assoc]
        rfl
      · intro other hother
        rw [hwritten.others other hother, citiesOf_assign cityId hplayer, if_neg hother]

theorem written_of_rosterEntry {cityCount : Nat} {entry : MatchRosterEntry} {assignments assigned : StartingAssignments}
    (hsound : assignments.Sound mapDefinition)
    (h : assignRosterEntry mapDefinition (buildAdjacencyLookup mapDefinition) cityCount assignments entry = .ok assigned) :
    entry.playerId ∉ assignments.assignmentsByPlayer.keys ∧
      Written mapDefinition entry.playerId (assignments.seat entry.playerId) assigned (entry.startingCityIds.getD []) := by
  unfold assignRosterEntry at h
  split at h
  · cases h
  · rename_i hplayer
    have hseated : (assignments.seat entry.playerId).Sound mapDefinition := hsound.of_citiesOf rfl (citiesOf_seat hplayer)
    refine ⟨hplayer, ?_⟩
    cases hids : entry.startingCityIds with
    | none =>
        rw [hids] at h
        cases h
        exact ⟨hseated, rfl, (List.append_nil _).symm, fun _ _ => rfl⟩
    | some startingCityIds =>
        rw [hids] at h
        dsimp only at h
        split at h
        · cases h
        · cases hfold : startingCityIds.foldlM (assignOverrideCity mapDefinition (buildAdjacencyLookup mapDefinition)
              entry.playerId) (assignments.seat entry.playerId, []) with
          | error error =>
              rw [StartingAssignments.seat] at hfold
              rw [hfold] at h
              cases h
          | ok final =>
              have hkey : entry.playerId ∈ (assignments.seat entry.playerId).assignmentsByPlayer.keys :=
                OrdDict.mem_keys_insert.2 (Or.inl rfl)
              have hwritten := written_of_overrides hseated hkey hfold
              rw [StartingAssignments.seat] at hfold
              rw [hfold] at h
              cases h
              exact hwritten

theorem citiesOf_eq_nil {assignments : StartingAssignments} {playerId : String}
    (h : playerId ∉ assignments.assignmentsByPlayer.keys) : assignments.citiesOf playerId = [] := by
  rw [StartingAssignments.citiesOf, OrdDict.get?_eq_none.2 h]
  rfl

/-! ### The roster -/

/-- Every entry of a roster is seated with its override. -/
structure RosterWritten (mapDefinition : MapDefinition) (roster : List MatchRosterEntry)
    (before after : StartingAssignments) : Prop where
  sound : after.Sound mapDefinition
  keys : ∀ playerId, playerId ∈ after.assignmentsByPlayer.keys ↔
    playerId ∈ before.assignmentsByPlayer.keys ∨ playerId ∈ roster.map (·.playerId)
  own : ∀ entry ∈ roster, after.citiesOf entry.playerId = entry.startingCityIds.getD []
  others : ∀ playerId, playerId ∉ roster.map (·.playerId) → after.citiesOf playerId = before.citiesOf playerId

theorem written_of_roster {cityCount : Nat} {roster : List MatchRosterEntry}
    {assignments assigned : StartingAssignments} (hnodup : (roster.map (·.playerId)).Nodup)
    (hsound : assignments.Sound mapDefinition)
    (h : roster.foldlM (assignRosterEntry mapDefinition (buildAdjacencyLookup mapDefinition) cityCount) assignments =
      .ok assigned) : RosterWritten mapDefinition roster assignments assigned := by
  induction roster generalizing assignments with
  | nil =>
      cases h
      exact ⟨hsound, fun playerId => by simp, by simp, fun _ _ => rfl⟩
  | cons entry roster ih =>
      obtain ⟨hentry, hnodup⟩ := List.nodup_cons.1 hnodup
      obtain ⟨next, hnext, hrest⟩ := Run.foldlM_cons_eq_ok h
      obtain ⟨hplayer, hwritten⟩ := written_of_rosterEntry hsound hnext
      have hroster := ih hnodup hwritten.sound hrest
      refine ⟨hroster.sound, ?_, ?_, ?_⟩
      · intro playerId
        rw [hroster.keys, hwritten.keys, StartingAssignments.seat, OrdDict.mem_keys_insert, List.map_cons, List.mem_cons]
        tauto
      · intro seated hseated
        rcases List.mem_cons.1 hseated with rfl | hseated
        · rw [hroster.others _ hentry, hwritten.own, citiesOf_seat hplayer, citiesOf_eq_nil hplayer, List.nil_append]
        · exact hroster.own seated hseated
      · intro playerId hnot
        obtain ⟨hne, hnot⟩ := List.ne_and_not_mem_of_not_mem_cons hnot
        rw [hroster.others playerId hnot, hwritten.others playerId hne, citiesOf_seat hplayer]

end Search

section Plan

variable {mapDefinition : MapDefinition} {roster : List MatchRosterEntry} {cityCount : Nat}
  {given : String → List String}

/-! ### Following a plan -/

/-- What is written so far belongs to a plan. -/
def Within (roster : List MatchRosterEntry) (given : String → List String) (assignments : StartingAssignments) : Prop :=
  ∀ playerId, ∀ cityId ∈ assignments.citiesOf playerId,
    playerId ∈ roster.map (·.playerId) ∧ cityId ∈ given playerId

/-- The next city of a plan is free: a plan keeps the players apart. -/
theorem freeFor_of_plan (hplan : IsStartingPlan mapDefinition roster cityCount given)
    {assignments : StartingAssignments} (hsound : assignments.Sound mapDefinition)
    (hwithin : Within roster given assignments) {playerId cityId : String}
    (hplayer : playerId ∈ roster.map (·.playerId)) (hcity : cityId ∈ given playerId)
    (hnew : cityId ∉ assignments.citiesOf playerId) :
    FreeFor mapDefinition assignments.assignedCityOwners cityId playerId := by
  refine ⟨Option.eq_none_iff_forall_ne_some.2 ?_, ?_⟩
  · intro owner howner
    have hmem : cityId ∈ assignments.citiesOf owner := (hsound.owner_iff cityId owner).1 howner
    obtain ⟨hroster, hgiven⟩ := hwithin owner cityId hmem
    have hne : owner ≠ playerId := fun heq => hnew (heq ▸ hmem)
    exact (hplan.apart owner hroster playerId hplayer hne cityId hgiven cityId hcity).1 rfl
  · intro other owner hadjacent howner
    obtain ⟨hroster, hgiven⟩ := hwithin owner other ((hsound.owner_iff other owner).1 howner)
    by_contra hne
    exact (hplan.apart owner hroster playerId hplayer hne other hgiven cityId hcity).2 hadjacent.symm

theorem Within.assign {assignments : StartingAssignments} (h : Within roster given assignments)
    {playerId cityId : String} (hkey : playerId ∈ assignments.assignmentsByPlayer.keys)
    (hplayer : playerId ∈ roster.map (·.playerId)) (hcity : cityId ∈ given playerId) :
    Within roster given (assignments.assign cityId playerId) := by
  intro other city hmem
  rw [citiesOf_assign cityId hkey] at hmem
  split at hmem
  · rename_i hother
    rcases List.mem_append.1 hmem with hmem | hmem
    · exact h other city hmem
    · rw [hother, List.mem_singleton.1 hmem]
      exact ⟨hplayer, hcity⟩
  · exact h other city hmem

theorem overrides_ok (hplan : IsStartingPlan mapDefinition roster cityCount given) {playerId : String}
    (hplayer : playerId ∈ roster.map (·.playerId)) {cityIds : List String} (hnodup : cityIds.Nodup)
    (hgiven : cityIds ⊆ given playerId) {progress : StartingAssignments × List String}
    (hsound : progress.1.Sound mapDefinition) (hwithin : Within roster given progress.1)
    (hkey : playerId ∈ progress.1.assignmentsByPlayer.keys)
    (hnew : ∀ cityId ∈ cityIds, cityId ∉ progress.2 ∧ cityId ∉ progress.1.citiesOf playerId) :
    ∃ final, cityIds.foldlM (assignOverrideCity mapDefinition (buildAdjacencyLookup mapDefinition) playerId) progress =
      .ok final := by
  induction cityIds generalizing progress with
  | nil => exact ⟨progress, rfl⟩
  | cons cityId cityIds ih =>
      obtain ⟨hcityId, hnodup⟩ := List.nodup_cons.1 hnodup
      obtain ⟨hcity, hgiven⟩ := List.cons_subset.1 hgiven
      obtain ⟨⟨hlisted, howned⟩, hnew⟩ := List.forall_mem_cons.1 hnew
      have hfree := freeFor_of_plan hplan hsound hwithin hplayer hcity howned
      have hlegal := hplan.legal playerId hplayer cityId hcity
      have hstep := assignOverrideCity_eq_ok.2 ⟨hlisted, hlegal, hfree, rfl⟩
      rw [List.foldlM_cons, hstep]
      refine ih hnodup hgiven (hsound.assign hkey hlegal hfree) (hwithin.assign hkey hplayer hcity) ?_ ?_
      · rwa [keys_assign]
      · intro later hlater
        have hne : later ≠ cityId := fun heq => hcityId (heq ▸ hlater)
        refine ⟨List.not_mem_cons_of_ne_of_not_mem hne (hnew later hlater).1, ?_⟩
        rw [citiesOf_assign cityId hkey, if_pos rfl]
        simp [hne, (hnew later hlater).2]

/-- The overrides that the rules of the source ask for: as many different cities as every player starts with. -/
def OverridesComplete (roster : List MatchRosterEntry) (cityCount : Nat) : Prop :=
  ∀ entry ∈ roster, ∀ startingCityIds, entry.startingCityIds = some startingCityIds →
    startingCityIds.length = cityCount ∧ startingCityIds.Nodup

theorem rosterEntry_ok (hplan : IsStartingPlan mapDefinition roster cityCount given)
    (hoverrides : OverridesComplete roster cityCount) {entry : MatchRosterEntry} (hentry : entry ∈ roster)
    {assignments : StartingAssignments} (hsound : assignments.Sound mapDefinition)
    (hwithin : Within roster given assignments) (hplayer : entry.playerId ∉ assignments.assignmentsByPlayer.keys) :
    ∃ assigned, assignRosterEntry mapDefinition (buildAdjacencyLookup mapDefinition) cityCount assignments entry =
      .ok assigned := by
  unfold assignRosterEntry
  rw [if_neg hplayer]
  cases hids : entry.startingCityIds with
  | none => exact ⟨_, rfl⟩
  | some startingCityIds =>
      obtain ⟨hlength, hnodup⟩ := hoverrides entry hentry startingCityIds hids
      have hcities := citiesOf_seat hplayer
      have hfold : ∃ final, startingCityIds.foldlM (assignOverrideCity mapDefinition (buildAdjacencyLookup mapDefinition)
          entry.playerId) (assignments.seat entry.playerId, []) = .ok final := by
        refine overrides_ok hplan (List.mem_map_of_mem hentry) hnodup (hplan.overrides entry hentry startingCityIds hids)
          (hsound.of_citiesOf rfl hcities) ?_ (OrdDict.mem_keys_insert.2 (Or.inl rfl)) ?_
        · intro playerId cityId hcity
          exact hwithin playerId cityId (by rwa [hcities] at hcity)
        · intro cityId _
          rw [hcities, citiesOf_eq_nil hplayer]
          exact ⟨List.not_mem_nil, List.not_mem_nil⟩
      obtain ⟨final, hfinal⟩ := hfold
      rw [StartingAssignments.seat] at hfinal
      refine ⟨final.1, ?_⟩
      dsimp only
      rw [if_neg (by omega), hfinal]
      rfl

theorem roster_ok (hplan : IsStartingPlan mapDefinition roster cityCount given)
    (hoverrides : OverridesComplete roster cityCount) {entries : List MatchRosterEntry} (hentries : entries ⊆ roster)
    (hnodup : (entries.map (·.playerId)).Nodup) {assignments : StartingAssignments}
    (hsound : assignments.Sound mapDefinition) (hwithin : Within roster given assignments)
    (hkeys : ∀ playerId ∈ entries.map (·.playerId), playerId ∉ assignments.assignmentsByPlayer.keys) :
    ∃ assigned, entries.foldlM (assignRosterEntry mapDefinition (buildAdjacencyLookup mapDefinition) cityCount)
      assignments = .ok assigned := by
  induction entries generalizing assignments with
  | nil => exact ⟨assignments, rfl⟩
  | cons entry entries ih =>
      obtain ⟨hentry, hentries⟩ := List.cons_subset.1 hentries
      obtain ⟨hfresh, hnodup⟩ := List.nodup_cons.1 hnodup
      obtain ⟨hplayer, hkeys⟩ := List.forall_mem_cons.1 hkeys
      obtain ⟨next, hnext⟩ := rosterEntry_ok hplan hoverrides hentry hsound hwithin hplayer
      obtain ⟨-, hwritten⟩ := written_of_rosterEntry hsound hnext
      rw [List.foldlM_cons, hnext]
      refine ih hentries hnodup hwritten.sound ?_ ?_
      · intro playerId cityId hcity
        by_cases hown : playerId = entry.playerId
        · subst hown
          rw [hwritten.own, citiesOf_seat hplayer, citiesOf_eq_nil hplayer, List.nil_append] at hcity
          refine ⟨List.mem_map_of_mem hentry, ?_⟩
          cases hids : entry.startingCityIds with
          | none =>
              rw [hids] at hcity
              cases hcity
          | some startingCityIds =>
              rw [hids] at hcity
              exact hplan.overrides entry hentry startingCityIds hids hcity
        · rw [hwritten.others playerId hown, citiesOf_seat hplayer] at hcity
          exact hwithin playerId cityId hcity
      · intro playerId hmem
        rw [hwritten.keys, StartingAssignments.seat, OrdDict.mem_keys_insert]
        rintro (rfl | hold)
        · exact hfresh hmem
        · exact hkeys playerId hmem hold

/-! ### The remaining cities -/

/-- Whoever still lacks cities of the plan can be given one, so the order can be filled to its end. -/
theorem fills_of_plan (hplan : IsStartingPlan mapDefinition roster cityCount given) {assignmentOrder : List String}
    (horder : ∀ playerId ∈ assignmentOrder, playerId ∈ roster.map (·.playerId)) {assignments : StartingAssignments}
    (hkeys : ∀ playerId ∈ assignmentOrder, playerId ∈ assignments.assignmentsByPlayer.keys)
    (hsound : assignments.Sound mapDefinition) (hwithin : Within roster given assignments)
    (hroom : ∀ playerId ∈ roster.map (·.playerId),
      (assignments.citiesOf playerId).length + assignmentOrder.count playerId ≤ cityCount) :
    ∃ assigned, (startingMoves (buildAdjacencyLookup mapDefinition)).Fills (legalSpawnCityIds mapDefinition)
      assignmentOrder assignments assigned := by
  induction assignmentOrder generalizing assignments with
  | nil => exact ⟨assignments, Backtrack.Fills.done _⟩
  | cons playerId assignmentOrder ih =>
      obtain ⟨hplayer, horder⟩ := List.forall_mem_cons.1 horder
      obtain ⟨hkey, hkeys⟩ := List.forall_mem_cons.1 hkeys
      have hless : (assignments.citiesOf playerId).length < (given playerId).length := by
        have hcount := hroom playerId hplayer
        rw [List.count_cons_self] at hcount
        rw [hplan.length playerId hplayer]
        omega
      obtain ⟨cityId, hcity, hnew⟩ : ∃ cityId ∈ given playerId, cityId ∉ assignments.citiesOf playerId := by
        by_contra hnone
        push Not at hnone
        have hle := ((hplan.nodup playerId hplayer).subperm hnone).length_le
        omega
      have hlegal := hplan.legal playerId hplayer cityId hcity
      have hfree := freeFor_of_plan hplan hsound hwithin hplayer hcity hnew
      have hrest : ∀ other ∈ roster.map (·.playerId),
          ((assignments.assign cityId playerId).citiesOf other).length + assignmentOrder.count other ≤ cityCount := by
        intro other hother
        have hcount := hroom other hother
        rw [List.count_cons] at hcount
        rw [citiesOf_assign cityId hkey]
        split
        · rename_i heq
          simp only [heq, beq_self_eq_true, if_true, List.length_append, List.length_singleton] at hcount ⊢
          omega
        · omega
      obtain ⟨assigned, hassigned⟩ := ih horder (by simpa only [keys_assign] using hkeys)
        (hsound.assign hkey hlegal hfree) (hwithin.assign hkey hplayer hcity) hrest
      exact ⟨assigned, Backtrack.Fills.place (mem_legalSpawnCityIds.2 hlegal) (canAssignCity_iff.2 hfree) hassigned⟩

/-- What a filled order has written: as many cities for a player as it stands in the order. -/
structure OrderWritten (mapDefinition : MapDefinition) (assignmentOrder : List String)
    (before after : StartingAssignments) : Prop where
  sound : after.Sound mapDefinition
  length : ∀ playerId, (after.citiesOf playerId).length =
    (before.citiesOf playerId).length + assignmentOrder.count playerId
  kept : ∀ playerId, before.citiesOf playerId ⊆ after.citiesOf playerId

theorem written_of_fills {assignmentOrder : List String} {assignments assigned : StartingAssignments}
    (hkeys : ∀ playerId ∈ assignmentOrder, playerId ∈ assignments.assignmentsByPlayer.keys)
    (hsound : assignments.Sound mapDefinition)
    (h : (startingMoves (buildAdjacencyLookup mapDefinition)).Fills (legalSpawnCityIds mapDefinition) assignmentOrder
      assignments assigned) : OrderWritten mapDefinition assignmentOrder assignments assigned := by
  induction h with
  | done assignments => exact ⟨hsound, fun _ => rfl, fun _ => List.Subset.refl _⟩
  | @place playerId assignmentOrder assignments assigned cityId hcity hcan _ ih =>
      obtain ⟨hkey, hkeys⟩ := List.forall_mem_cons.1 hkeys
      have hplaced := citiesOf_assign cityId hkey
      have hrest : OrderWritten mapDefinition assignmentOrder (assignments.assign cityId playerId) assigned := by
        refine ih ?_ (hsound.assign hkey (mem_legalSpawnCityIds.1 hcity) (canAssignCity_iff.1 hcan))
        intro other hother
        exact (keys_assign assignments cityId playerId).symm ▸ hkeys other hother
      refine ⟨hrest.sound, ?_, ?_⟩
      · intro other
        rw [hrest.length, hplaced, List.count_cons]
        by_cases hother : other = playerId
        · simp only [hother, if_true, List.length_append, List.length_singleton, beq_self_eq_true]
          omega
        · simp [hother, Ne.symm hother]
      · intro other city hmem
        refine hrest.kept other ?_
        rw [hplaced]
        split
        · exact List.mem_append_left _ hmem
        · exact hmem

/-! ### The outcome -/

theorem length_le_of_plan (hplan : IsStartingPlan mapDefinition roster cityCount given)
    (hnodup : (roster.map (·.playerId)).Nodup) :
    roster.length * cityCount ≤ (legalSpawnCityIds mapDefinition).length := by
  have hlength : ((roster.map (·.playerId)).flatMap given).length = roster.length * cityCount := by
    rw [List.length_flatMap, List.map_congr_left hplan.length]
    simp [Function.comp_def]
  have hdisjoint : (roster.map (·.playerId)).Pairwise fun first second => List.Disjoint (given first) (given second) := by
    refine hnodup.imp_of_mem fun hfirst hsecond hne cityId hcity hcity' => ?_
    exact (hplan.apart _ hfirst _ hsecond hne cityId hcity cityId hcity').1 rfl
  have hcities : ((roster.map (·.playerId)).flatMap given).Nodup := List.nodup_flatMap.2 ⟨hplan.nodup, hdisjoint⟩
  rw [← hlength]
  refine (hcities.subperm fun cityId hcity => ?_).length_le
  obtain ⟨playerId, hplayer, hcity⟩ := List.mem_flatMap.1 hcity
  exact mem_legalSpawnCityIds.2 (hplan.legal playerId hplayer cityId hcity)

theorem rosterWritten_room (hoverrides : OverridesComplete roster cityCount)
    {before assignments : StartingAssignments} (hwritten : RosterWritten mapDefinition roster before assignments)
    {playerId : String} (hplayer : playerId ∈ roster.map (·.playerId)) :
    (assignments.citiesOf playerId).length ≤ cityCount := by
  obtain ⟨entry, hentry, rfl⟩ := List.mem_map.1 hplayer
  rw [hwritten.own entry hentry]
  cases hids : entry.startingCityIds with
  | none => exact Nat.zero_le _
  | some startingCityIds => exact (hoverrides entry hentry startingCityIds hids).1.le

/-- Success runs through the roster and then through the search. -/
theorem assignStartingCities_eq_ok {config : MatchConfig} {assigned : StartingAssignments}
    (hnodup : (roster.map (·.playerId)).Nodup)
    (h : assignStartingCities config roster mapDefinition = .ok assigned) :
    ∃ assignments, RosterWritten mapDefinition roster ⟨OrdDict.empty, OrdDict.empty⟩ assignments ∧
      OrderWritten mapDefinition
        (buildAssignmentOrder roster config.startingCitiesPerPlayer assignments.assignmentsByPlayer) assignments
        assigned := by
  unfold assignStartingCities at h
  dsimp only at h
  split at h
  · cases h
  · rename_i assignments hroster
    have hwritten := written_of_roster hnodup sound_empty hroster
    split at h
    · cases h
    · split at h
      · cases h
      · rename_i remaining hremaining
        cases h
        refine ⟨assignments, hwritten, written_of_fills ?_ hwritten.sound (fills_of_assignRemainingCities hremaining)⟩
        exact fun playerId hplayer => (hwritten.keys playerId).2 (Or.inr (mem_of_mem_buildAssignmentOrder hplayer))

/-- What the search finds is a plan. -/
theorem plan_of_assigned {config : MatchConfig} {assigned : StartingAssignments}
    (hnodup : (roster.map (·.playerId)).Nodup) (hoverrides : OverridesComplete roster config.startingCitiesPerPlayer)
    (h : assignStartingCities config roster mapDefinition = .ok assigned) :
    IsStartingPlan mapDefinition roster config.startingCitiesPerPlayer assigned.citiesOf := by
  obtain ⟨assignments, hroster, horder⟩ := assignStartingCities_eq_ok hnodup h
  refine ⟨?_, ?_, fun playerId _ => horder.sound.nodup playerId, fun playerId _ => horder.sound.legal playerId, ?_⟩
  · intro entry hentry startingCityIds hids
    have hown := hroster.own entry hentry
    rw [hids, Option.getD_some] at hown
    exact hown ▸ horder.kept entry.playerId
  · intro playerId hplayer
    have hroom := rosterWritten_room hoverrides hroster hplayer
    rw [horder.length, count_buildAssignmentOrder _ _ hnodup hplayer]
    unfold StartingAssignments.citiesOf at hroom ⊢
    omega
  · intro first _ second _ hne cityA hcityA cityB hcityB
    refine ⟨?_, fun hadjacent => hne (horder.sound.apart first second cityA hcityA cityB hcityB hadjacent)⟩
    rintro rfl
    have howner := (horder.sound.owner_iff cityA first).2 hcityA
    rw [(horder.sound.owner_iff cityA second).2 hcityB] at howner
    exact hne (Option.some_inj.1 howner).symm

/-- The search finds a plan when there is one. -/
theorem assigned_of_plan {config : MatchConfig} (hnodup : (roster.map (·.playerId)).Nodup)
    (hoverrides : OverridesComplete roster config.startingCitiesPerPlayer)
    (hplan : IsStartingPlan mapDefinition roster config.startingCitiesPerPlayer given) :
    ∃ assigned, assignStartingCities config roster mapDefinition = .ok assigned := by
  have hnone : ∀ playerId, StartingAssignments.citiesOf ⟨OrdDict.empty, OrdDict.empty⟩ playerId = [] := fun _ => rfl
  obtain ⟨assignments, hassignments⟩ := roster_ok hplan hoverrides (List.Subset.refl roster) hnodup
    (sound_empty : StartingAssignments.Sound mapDefinition _) (fun playerId cityId hcity => by simp [hnone] at hcity)
    (fun playerId _ => List.not_mem_nil)
  have hwritten := written_of_roster hnodup sound_empty hassignments
  have hwithin : Within roster given assignments := by
    intro playerId cityId hcity
    by_cases hplayer : playerId ∈ roster.map (·.playerId)
    · refine ⟨hplayer, ?_⟩
      obtain ⟨entry, hentry, rfl⟩ := List.mem_map.1 hplayer
      rw [hwritten.own entry hentry] at hcity
      cases hids : entry.startingCityIds with
      | none => simp [hids] at hcity
      | some startingCityIds =>
          rw [hids] at hcity
          exact hplan.overrides entry hentry startingCityIds hids hcity
    · rw [hwritten.others playerId hplayer, hnone] at hcity
      cases hcity
  have hroom : ∀ playerId ∈ roster.map (·.playerId), (assignments.citiesOf playerId).length +
      (buildAssignmentOrder roster config.startingCitiesPerPlayer assignments.assignmentsByPlayer).count playerId ≤
        config.startingCitiesPerPlayer := by
    intro playerId hplayer
    have hlength := rosterWritten_room hoverrides hwritten hplayer
    rw [count_buildAssignmentOrder _ _ hnodup hplayer]
    unfold StartingAssignments.citiesOf at hlength ⊢
    omega
  obtain ⟨filled, hfilled⟩ := fills_of_plan hplan (fun playerId => mem_of_mem_buildAssignmentOrder)
    (fun playerId hplayer => (hwritten.keys playerId).2 (Or.inr (mem_of_mem_buildAssignmentOrder hplayer)))
    hwritten.sound hwithin hroom
  obtain ⟨assigned, hassigned⟩ := Backtrack.inPlace_of_fills hfilled
  refine ⟨assigned, ?_⟩
  unfold assignStartingCities
  dsimp only
  rw [hassignments]
  dsimp only
  have hlength := length_le_of_plan hplan hnodup
  rw [if_neg (by omega), assignRemainingCities_eq, hassigned]

/-- In a new match a player's list of cities and the cities' owners say the same. -/
theorem cityOwner_iff_of_initialized {config : MatchConfig} {state : MatchState}
    (hnodup : (roster.map (·.playerId)).Nodup)
    (h : initializeMatchState config roster (some mapDefinition) = .ok state) (cityId playerId : String) :
    state.cityOwner cityId = some playerId ↔
      ∃ player, state.players.get? playerId = some player ∧ cityId ∈ player.citiesOwned := by
  unfold initializeMatchState at h
  dsimp only [Option.getD_some] at h
  split at h
  · cases h
  · split at h
    · cases h
    · cases hassign : assignStartingCities config roster mapDefinition with
      | error error =>
          rw [hassign] at h
          cases h
      | ok assigned =>
          rw [hassign] at h
          cases h
          obtain ⟨assignments, hroster, horder⟩ := assignStartingCities_eq_ok hnodup hassign
          have howner : (buildMatchState config roster mapDefinition assigned).cityOwner cityId = some playerId ↔
              cityId ∈ assigned.citiesOf playerId := by
            rw [← horder.sound.owner_iff, MatchState.cityOwner_eq_some]
            unfold buildMatchState
            simp only [OrdDict.get?_mapVals, Option.map_eq_some_iff]
            constructor
            · rintro ⟨city, ⟨definition, -, rfl⟩, howner⟩
              exact howner
            · intro howner
              obtain ⟨definition, hdefinition, -⟩ :=
                horder.sound.legal playerId cityId ((horder.sound.owner_iff cityId playerId).1 howner)
              exact ⟨_, ⟨definition, hdefinition, rfl⟩, howner⟩
          constructor
          · intro hcity
            have hmember := ownedWithin_assignStartingCities hassign cityId playerId
              ((horder.sound.owner_iff cityId playerId).2 (howner.1 hcity))
            obtain ⟨entry, hentry, rfl⟩ := List.mem_map.1 hmember
            refine ⟨buildPlayerState config (assigned.citiesOf entry.playerId), ?_, howner.1 hcity⟩
            exact (OrdDict.get?_ofList_of_nodup (by simpa [Function.comp_def] using hnodup)).2
              (List.mem_map_of_mem hentry)
          · rintro ⟨player, hplayer, hcity⟩
            obtain ⟨entry, -, hentry⟩ := List.mem_map.1 (OrdDict.mem_of_get?_ofList hplayer)
            cases hentry
            exact howner.2 hcity

end Plan

/-- A roster gets its starting cities exactly when there are some that extend its overrides and keep the players apart. -/
theorem startingCities_iff_plan (config : MatchConfig) {roster : List MatchRosterEntry} (mapDefinition : MapDefinition)
    (hnodup : (roster.map (·.playerId)).Nodup) (hoverrides : OverridesComplete roster config.startingCitiesPerPlayer) :
    ((∃ assigned, assignStartingCities config roster mapDefinition = .ok assigned) ↔
        ∃ given, IsStartingPlan mapDefinition roster config.startingCitiesPerPlayer given) ∧
      (∀ assigned, assignStartingCities config roster mapDefinition = .ok assigned →
        IsStartingPlan mapDefinition roster config.startingCitiesPerPlayer assigned.citiesOf ∧
          ∀ cityId playerId, assigned.assignedCityOwners.get? cityId = some playerId ↔
            cityId ∈ assigned.citiesOf playerId) ∧
      ∀ state, initializeMatchState config roster (some mapDefinition) = .ok state → ∀ cityId playerId,
        (state.cityOwner cityId = some playerId ↔
          ∃ player, state.players.get? playerId = some player ∧ cityId ∈ player.citiesOwned) := by
  refine ⟨⟨?_, ?_⟩, ?_, ?_⟩
  · rintro ⟨assigned, hassigned⟩
    exact ⟨assigned.citiesOf, plan_of_assigned hnodup hoverrides hassigned⟩
  · rintro ⟨given, hplan⟩
    exact assigned_of_plan hnodup hoverrides hplan
  · intro assigned hassigned
    obtain ⟨assignments, -, horder⟩ := assignStartingCities_eq_ok hnodup hassigned
    exact ⟨plan_of_assigned hnodup hoverrides hassigned, horder.sound.owner_iff⟩
  · intro state hstate
    exact cityOwner_iff_of_initialized hnodup hstate

/-- Two players on the shipped map, one of them with an override. -/
def pairRoster : List MatchRosterEntry := [⟨"player-1", some ["london", "southampton"]⟩, ⟨"player-2", none⟩]

def pairConfig : MatchConfig := ⟨13, 2, ⟨0, 0, 0⟩⟩

theorem startingCities_iff_plan_pair :
    ∃ given, IsStartingPlan loadUk1900Map pairRoster 2 given := by
  have hoverrides : OverridesComplete pairRoster pairConfig.startingCitiesPerPlayer := by
    intro entry hentry startingCityIds hids
    simp only [pairRoster, List.mem_cons, List.not_mem_nil, or_false] at hentry
    rcases hentry with rfl | rfl
    · cases hids
      decide
    · cases hids
  have hassigned : ∃ assigned, assignStartingCities pairConfig pairRoster loadUk1900Map = .ok assigned := by
    have hsome : (assignStartingCities pairConfig pairRoster loadUk1900Map).toOption.isSome = true := by decide +kernel
    obtain ⟨assigned, hassigned⟩ := Option.isSome_iff_exists.1 hsome
    exact ⟨assigned, eq_ok_of_toOption hassigned⟩
  exact (startingCities_iff_plan pairConfig loadUk1900Map (by decide) hoverrides).1.1 hassigned

end IronCouncil
