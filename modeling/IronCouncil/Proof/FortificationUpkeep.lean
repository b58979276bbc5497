import IronCouncil.Base.KeyedSum
import IronCouncil.Resolver.Resource

/-!
# The upkeep of fortifications

A player's fortified cities are paid for in the order of their ids, each exactly when the money left covers it. What is left in the end is what there was less the upkeep of the cities that are not reported as unpaid.
-/

namespace IronCouncil

def upkeepCost (city : CityState) : Int := tierEntry fortificationUpkeepCosts city.upgrades.fortification

/-! ### The loop -/

section Loop

variable {money : Int}

def moneyLeft (money : Int) (cities : List (String × CityState)) : Int := (cities.foldl payFortification (money, [])).1

def unpaidOf (money : Int) (cities : List (String × CityState)) : List String :=
  (cities.foldl payFortification (money, [])).2

/-- The upkeep of the cities that are not reported as unpaid. -/
def paidUpkeep (unpaid : List String) (cities : List (String × CityState)) : Int :=
  ((cities.filter fun entry => entry.1 ∉ unpaid).map fun entry => upkeepCost entry.2).sum

theorem foldl_payFortification (cities : List (String × CityState)) (paid : Int × List String) :
    cities.foldl payFortification paid = (moneyLeft paid.1 cities, paid.2 ++ unpaidOf paid.1 cities) := by
  induction cities generalizing paid with
  | nil => exact Prod.ext rfl (List.append_nil _).symm
  | cons entry cities ih =>
      unfold moneyLeft unpaidOf
      rw [List.foldl_cons, List.foldl_cons, ih (payFortification paid entry), ih (payFortification (paid.1, []) entry)]
      unfold payFortification
      dsimp only
      split
      · rfl
      · simp

@[simp] theorem moneyLeft_nil : moneyLeft money [] = money := rfl

@[simp] theorem unpaidOf_nil : unpaidOf money [] = [] := rfl

theorem moneyLeft_cons (entry : String × CityState) (cities : List (String × CityState)) :
    moneyLeft money (entry :: cities) =
      moneyLeft (if upkeepCost entry.2 ≤ money then money - upkeepCost entry.2 else money) cities := by
  change (cities.foldl payFortification (payFortification (money, []) entry)).1 = _
  rw [foldl_payFortification]
  unfold payFortification upkeepCost
  dsimp only
  split <;> rfl

theorem unpaidOf_cons (entry : String × CityState) (cities : List (String × CityState)) :
    unpaidOf money (entry :: cities) =
      if upkeepCost entry.2 ≤ money then unpaidOf (money - upkeepCost entry.2) cities
      else entry.1 :: unpaidOf money cities := by
  change (cities.foldl payFortification (payFortification (money, []) entry)).2 = _
  rw [foldl_payFortification]
  unfold payFortification upkeepCost
  dsimp only
  split <;> rfl

theorem unpaidOf_append (first second : List (String × CityState)) :
    unpaidOf money (first ++ second) = unpaidOf money first ++ unpaidOf (moneyLeft money first) second := by
  unfold unpaidOf
  rw [List.foldl_append, foldl_payFortification first, foldl_payFortification second]
  rfl

theorem unpaidOf_subset (money : Int) (cities : List (String × CityState)) :
    ∀ cityId ∈ unpaidOf money cities, cityId ∈ cities.map Prod.fst := by
  induction cities generalizing money with
  | nil => exact fun cityId hmem => absurd hmem List.not_mem_nil
  | cons entry cities ih =>
      intro cityId hmem
      rw [unpaidOf_cons] at hmem
      rw [List.map_cons, List.mem_cons]
      split at hmem
      · exact Or.inr (ih _ cityId hmem)
      · exact (List.mem_cons.1 hmem).imp id (ih _ cityId)

theorem moneyLeft_nonneg (hmoney : 0 ≤ money) (cities : List (String × CityState)) : 0 ≤ moneyLeft money cities := by
  induction cities generalizing money with
  | nil => exact hmoney
  | cons entry cities ih =>
      rw [moneyLeft_cons]
      apply ih
      split <;> omega

theorem paidUpkeep_congr {unpaid unpaid' : List String} {cities : List (String × CityState)}
    (h : ∀ entry ∈ cities, entry.1 ∈ unpaid ↔ entry.1 ∈ unpaid') : paidUpkeep unpaid cities = paidUpkeep unpaid' cities := by
  have hfilter : cities.filter (fun entry => entry.1 ∉ unpaid) = cities.filter fun entry => entry.1 ∉ unpaid' :=
    List.filter_congr fun entry hentry => by simp only [h entry hentry]
  unfold paidUpkeep
  rw [hfilter]

theorem paidUpkeep_cons (unpaid : List String) (entry : String × CityState) (cities : List (String × CityState)) :
    paidUpkeep unpaid (entry :: cities) =
      (if entry.1 ∈ unpaid then 0 else upkeepCost entry.2) + paidUpkeep unpaid cities := by
  unfold paidUpkeep
  rw [List.filter_cons]
  by_cases hunpaid : entry.1 ∈ unpaid
  · simp [hunpaid]
  · simp [hunpaid]

/-- What is left is what there was less what was paid. -/
theorem moneyLeft_eq {cities : List (String × CityState)} (hnodup : (cities.map Prod.fst).Nodup) :
    moneyLeft money cities = money - paidUpkeep (unpaidOf money cities) cities := by
  induction cities generalizing money with
  | nil => simp [paidUpkeep]
  | cons entry cities ih =>
      rw [List.map_cons, List.nodup_cons] at hnodup
      rw [moneyLeft_cons, unpaidOf_cons]
      by_cases hpaid : upkeepCost entry.2 ≤ money
      · have hfresh : entry.1 ∉ unpaidOf (money - upkeepCost entry.2) cities :=
          fun h => hnodup.1 (unpaidOf_subset _ _ _ h)
        rw [if_pos hpaid, if_pos hpaid, ih hnodup.2, paidUpkeep_cons, if_neg hfresh]
        omega
      · have hothers : paidUpkeep (entry.1 :: unpaidOf money cities) cities =
            paidUpkeep (unpaidOf money cities) cities := by
          apply paidUpkeep_congr
          intro other hother
          have hne : other.1 ≠ entry.1 := fun heq => hnodup.1 (heq ▸ List.mem_map_of_mem hother)
          simp [hne]
        rw [if_neg hpaid, if_neg hpaid, ih hnodup.2, paidUpkeep_cons, if_pos List.mem_cons_self, hothers, zero_add]

/-- A city is paid for exactly when the money that the earlier ones leave covers it. -/
theorem not_mem_unpaidOf_iff {first rest : List (String × CityState)} {entry : String × CityState}
    (hnodup : ((first ++ entry :: rest).map Prod.fst).Nodup) :
    entry.1 ∉ unpaidOf money (first ++ entry :: rest) ↔
      upkeepCost entry.2 ≤ money - paidUpkeep (unpaidOf money (first ++ entry :: rest)) first := by
  rw [List.map_append, List.map_cons, List.nodup_append, List.nodup_cons] at hnodup
  obtain ⟨hfirst, ⟨hrest, -⟩, hapart⟩ := hnodup
  have hentry : entry.1 ∉ unpaidOf money first :=
    fun h => hapart _ (unpaidOf_subset _ _ _ h) _ List.mem_cons_self rfl
  have hearlier : paidUpkeep (unpaidOf money (first ++ entry :: rest)) first = paidUpkeep (unpaidOf money first) first := by
    apply paidUpkeep_congr
    intro other hother
    rw [unpaidOf_append, List.mem_append]
    refine ⟨fun h => h.resolve_right ?_, Or.inl⟩
    intro hlater
    exact hapart _ (List.mem_map_of_mem hother) _ (unpaidOf_subset _ _ _ hlater) rfl
  rw [hearlier, ← moneyLeft_eq hfirst, unpaidOf_append, List.mem_append, unpaidOf_cons, not_or]
  by_cases hpaid : upkeepCost entry.2 ≤ moneyLeft money first
  · rw [if_pos hpaid]
    exact iff_of_true ⟨hentry, fun h => hrest (unpaidOf_subset _ _ _ h)⟩ hpaid
  · rw [if_neg hpaid]
    exact iff_of_false (fun h => h.2 List.mem_cons_self) hpaid

end Loop

/-! ### The fortified cities of a player -/

section Fortified

variable {state : MatchState} {owner : String} {resources : ResourceState}

theorem fortifiedCities_perm (state : MatchState) (owner : String) :
    (fortifiedCitiesInUpkeepOrder state owner).Perm (state.cities.entries.filter fun entry =>
      entry.2.owner = some owner ∧ 0 < entry.2.upgrades.fortification) :=
  List.perm_insertionSort _ _

theorem mem_fortifiedCities {entry : String × CityState} :
    entry ∈ fortifiedCitiesInUpkeepOrder state owner ↔
      state.cities.get? entry.1 = some entry.2 ∧ entry.2.owner = some owner ∧ 0 < entry.2.upgrades.fortification := by
  rw [(fortifiedCities_perm state owner).mem_iff, List.mem_filter, decide_eq_true_eq, OrdDict.get?_eq_some]

theorem fortifiedCities_nodup (state : MatchState) (owner : String) :
    ((fortifiedCitiesInUpkeepOrder state owner).map Prod.fst).Nodup :=
  ((fortifiedCities_perm state owner).map _).nodup_iff.2 (state.cities.nodup.sublist (List.filter_sublist.map _))

/-- What a player has when the upkeep is due. -/
def availableMoney (state : MatchState) (playerId : String) (resources : ResourceState) : Int :=
  resources.money + resourceYield state playerId .money

theorem unpaidFortifications_eq (state : MatchState) (playerId : String) (resources : ResourceState) :
    unpaidFortifications state playerId resources =
      unpaidOf (availableMoney state playerId resources) (fortifiedCitiesInUpkeepOrder state playerId) := rfl

theorem moneyAfterUpkeep_eq (hmoney : 0 ≤ availableMoney state owner resources) :
    moneyAfterUpkeep state owner resources = availableMoney state owner resources -
      paidUpkeep (unpaidFortifications state owner resources) (fortifiedCitiesInUpkeepOrder state owner) := by
  rw [unpaidFortifications_eq, ← moneyLeft_eq (fortifiedCities_nodup state owner)]
  exact max_eq_right (moneyLeft_nonneg hmoney _)

end Fortified

end IronCouncil
