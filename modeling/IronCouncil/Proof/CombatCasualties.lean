import IronCouncil.Base.Apportionment
import IronCouncil.Base.KeyedSum
import IronCouncil.Proof.Board
import IronCouncil.Registry.Commands

/-!
# The casualties of the combat phase

In a contested city every owner loses a tenth of the others' effective strength, as far as there are troops to lose, and the loss is shared out over the owner's armies in proportion to their troops. All strengths are those before the phase, and armies elsewhere lose nothing.
-/

namespace IronCouncil

/-- The armies of one owner that stand in a city. -/
def stackAt (armies : List ArmyState) (cityId owner : String) : List ArmyState :=
  (armiesAtCity armies cityId).filter fun army => army.owner = owner

def stackStrength (armies : List ArmyState) (cityId : String) (city : CityState) (owner : String) : Nat :=
  effectiveCombatStrength (troopTotal (stackAt armies cityId owner)) (some owner = city.owner) city.upgrades.fortification

def opposingStrength (armies : List ArmyState) (cityId : String) (city : CityState) (owner : String) : Nat :=
  (((ownersOf (armiesAtCity armies cityId)).filter (· ≠ owner)).map (stackStrength armies cityId city)).sum

def stackLosses (armies : List ArmyState) (cityId : String) (city : CityState) (owner : String) : Nat :=
  min (troopTotal (stackAt armies cityId owner)) (opposingStrength armies cityId city owner / combatCasualtyDivisor)

/-- Armies of two owners stand in the city. -/
def Contested (armies : List ArmyState) (cityId : String) : Prop :=
  ∃ army ∈ armies, ∃ other ∈ armies, army.stationedAt cityId ∧ other.stationedAt cityId ∧ army.owner ≠ other.owner

/-- The army stands in a city of the state together with another owner's. -/
def Embattled (state : MatchState) (army : ArmyState) : Prop :=
  ∃ cityId ∈ state.cities.keys, army.stationedAt cityId ∧ Contested state.armies cityId

structure FairLosses (state : MatchState) (losses : ArmyState → Nat) : Prop where
  total : ∀ cityId city owner, state.cities.get? cityId = some city → Contested state.armies cityId →
    ((stackAt state.armies cityId owner).map losses).sum = stackLosses state.armies cityId city owner
  proportional : ∀ cityId city, state.cities.get? cityId = some city → Contested state.armies cityId →
    ∀ army ∈ armiesAtCity state.armies cityId,
      losses army = stackLosses state.armies cityId city army.owner * army.troops /
          troopTotal (stackAt state.armies cityId army.owner) ∨
        losses army = stackLosses state.armies cityId city army.owner * army.troops ⌈/⌉
          troopTotal (stackAt state.armies cityId army.owner)
  within : ∀ army ∈ state.armies, losses army ≤ army.troops
  spared : ∀ army ∈ state.armies, ¬ Embattled state army → losses army = 0

theorem stackLosses_le (armies : List ArmyState) (cityId : String) (city : CityState) (owner : String) :
    stackLosses armies cityId city owner ≤ troopTotal (stackAt armies cityId owner) :=
  min_le_left _ _

theorem stackAt_sublist (armies : List ArmyState) (cityId owner : String) : (stackAt armies cityId owner).Sublist armies :=
  List.filter_sublist.trans List.filter_sublist

theorem id_nodup_stackAt {armies : List ArmyState} (hnodup : (armies.map (·.id)).Nodup) (cityId owner : String) :
    ((stackAt armies cityId owner).map (·.id)).Nodup :=
  hnodup.sublist ((stackAt_sublist armies cityId owner).map _)

/-! ### One stack -/

section Stack

variable {armies : List ArmyState} {casualties : Nat}

def orderedArmies (armies : List ArmyState) : List ArmyState :=
  armies.insertionSort fun first second => first.id ≤ second.id

/-- An army's share of its stack's casualties. -/
def casualtyShare (armies : List ArmyState) (casualties : Nat) (army : ArmyState) : Nat :=
  Apportion.share casualties ArmyState.id ArmyState.troops (orderedArmies armies) army

theorem orderedArmies_perm (armies : List ArmyState) : (orderedArmies armies).Perm armies :=
  List.perm_insertionSort _ _

theorem weightSum_orderedArmies (armies : List ArmyState) :
    Apportion.weightSum ArmyState.troops (orderedArmies armies) = troopTotal armies :=
  ((orderedArmies_perm armies).map _).sum_eq

theorem id_nodup_orderedArmies (hnodup : (armies.map (·.id)).Nodup) :
    ((orderedArmies armies).map (·.id)).Nodup :=
  ((orderedArmies_perm armies).map _).nodup_iff.2 hnodup

theorem find?_id_of_nodup {l : List ArmyState} (hnodup : (l.map (·.id)).Nodup) {army : ArmyState} (harmy : army ∈ l) :
    (l.find? fun other => other.id = army.id) = some army := by
  cases hfind : l.find? fun other => other.id = army.id with
  | none => exact absurd (decide_eq_true rfl) (List.find?_eq_none.1 hfind army harmy)
  | some other =>
      have hid : other.id = army.id := by simpa using List.find?_some hfind
      rw [List.inj_on_of_nodup_map hnodup (List.mem_of_find?_eq_some hfind) harmy hid]

theorem get?_foldl_insert_of_nodup {l : List ArmyState} {f : ArmyState → Nat} (hnodup : (l.map (·.id)).Nodup)
    (start : OrdDict String Nat) (armyId : String) :
    (l.foldl (fun casualties army => casualties.insert army.id (f army)) start).get? armyId =
      ((l.find? fun army => army.id = armyId).map f).or (start.get? armyId) := by
  induction l generalizing start with
  | nil => rfl
  | cons army l ih =>
      rw [List.map_cons, List.nodup_cons] at hnodup
      rw [List.foldl_cons, ih hnodup.2, OrdDict.get?_insert, List.find?_cons]
      by_cases hid : army.id = armyId
      · have hrest : (l.find? fun army => army.id = armyId) = none := by
          rw [List.find?_eq_none]
          intro other hother heq
          apply hnodup.1
          rw [hid, ← of_decide_eq_true heq]
          exact List.mem_map_of_mem hother
        simp [hid, hrest]
      · simp [hid, Ne.symm hid]

theorem get?_foldl_modify_of_nodup {l : List (Nat × String)} (hnodup : (l.map Prod.snd).Nodup)
    (start : OrdDict String Nat) (armyId : String) :
    (l.foldl (fun casualties entry => casualties.modify entry.2 (· + 1)) start).get? armyId =
      (start.get? armyId).map (· + if armyId ∈ l.map Prod.snd then 1 else 0) := by
  induction l generalizing start with
  | nil => simp
  | cons entry l ih =>
      rw [List.map_cons, List.nodup_cons] at hnodup
      rw [List.foldl_cons, ih hnodup.2, OrdDict.get?_modify, List.map_cons]
      by_cases hid : armyId = entry.2
      · rw [if_pos hid, hid, if_neg hnodup.1, if_pos List.mem_cons_self, Option.map_map]
        rfl
      · rw [if_neg hid]
        simp only [List.mem_cons, hid, false_or]

@[simp] theorem casualtyShare_zero (army : ArmyState) : casualtyShare armies 0 army = 0 := by
  simp [casualtyShare, Apportion.share, Apportion.wholePart, Apportion.favoured, Apportion.leftOver]

theorem eq_zero_of_no_troops (hwithin : casualties ≤ troopTotal armies) (hnone : ¬ 0 < troopTotal armies) :
    casualties = 0 := by
  omega

/-- The source charges each army of a stack with its share. -/
theorem keyedSum_allocateProportionalCasualties (hnodup : (armies.map (·.id)).Nodup)
    (hwithin : casualties ≤ troopTotal armies) (armyId : String) :
    keyedSum (allocateProportionalCasualties armies casualties) armyId =
      (((orderedArmies armies).find? fun army => army.id = armyId).map (casualtyShare armies casualties)).getD 0 := by
  have hordered := id_nodup_orderedArmies hnodup
  unfold allocateProportionalCasualties
  dsimp only
  by_cases hnone : casualties = 0 ∨ armies = [] ∨ troopTotal armies = 0
  · obtain rfl : casualties = 0 := by
      rcases hnone with hzero | hnil | hempty
      · exact hzero
      · rw [hnil] at hwithin
        exact Nat.le_zero.1 hwithin
      · omega
    rw [if_pos hnone]
    cases (orderedArmies armies).find? fun army => army.id = armyId with
    | none => rfl
    | some army => simp
  · rw [if_neg hnone, keyedSum_filter_pos, OrdDict.keyedSum_entries, ← weightSum_orderedArmies]
    change ((((Apportion.ranking casualties ArmyState.id ArmyState.troops (orderedArmies armies)).take
        (Apportion.leftOver casualties ArmyState.troops (orderedArmies armies))).foldl
          (fun casualties entry => casualties.modify entry.2 (· + 1))
          ((orderedArmies armies).foldl (fun shares army => shares.insert army.id
            (Apportion.wholePart casualties ArmyState.troops (orderedArmies armies) army)) OrdDict.empty)).get?
        armyId).getD 0 = _
    rw [get?_foldl_modify_of_nodup (Apportion.favoured_nodup hordered), get?_foldl_insert_of_nodup hordered]
    cases hfind : (orderedArmies armies).find? fun army => army.id = armyId with
    | none => rfl
    | some army =>
        have hid : army.id = armyId := by simpa using List.find?_some hfind
        rw [← hid]
        rfl

theorem sum_casualtyShare (hnodup : (armies.map (·.id)).Nodup) (hwithin : casualties ≤ troopTotal armies) :
    (armies.map (casualtyShare armies casualties)).sum = casualties := by
  rw [← ((orderedArmies_perm armies).map _).sum_eq]
  by_cases hpos : 0 < troopTotal armies
  · rw [← weightSum_orderedArmies] at hpos
    exact Apportion.sum_share hpos (id_nodup_orderedArmies hnodup)
  · obtain rfl := eq_zero_of_no_troops hwithin hpos
    apply List.sum_eq_zero
    simp

theorem casualtyShare_eq_or (hnodup : (armies.map (·.id)).Nodup) (hwithin : casualties ≤ troopTotal armies)
    {army : ArmyState} (harmy : army ∈ armies) :
    casualtyShare armies casualties army = casualties * army.troops / troopTotal armies ∨
      casualtyShare armies casualties army = casualties * army.troops ⌈/⌉ troopTotal armies := by
  by_cases hpos : 0 < troopTotal armies
  · rw [← weightSum_orderedArmies] at hpos ⊢
    exact Apportion.share_eq_or hpos (id_nodup_orderedArmies hnodup) ((orderedArmies_perm armies).mem_iff.2 harmy)
  · obtain rfl := eq_zero_of_no_troops hwithin hpos
    left
    simp

theorem casualtyShare_le (hnodup : (armies.map (·.id)).Nodup) (hwithin : casualties ≤ troopTotal armies)
    {army : ArmyState} (harmy : army ∈ armies) : casualtyShare armies casualties army ≤ army.troops := by
  by_cases hpos : 0 < troopTotal armies
  · rw [← weightSum_orderedArmies] at hpos hwithin
    exact Apportion.share_le_weight hpos (id_nodup_orderedArmies hnodup) hwithin
      ((orderedArmies_perm armies).mem_iff.2 harmy)
  · obtain rfl := eq_zero_of_no_troops hwithin hpos
    rw [casualtyShare_zero]
    exact Nat.zero_le _

end Stack

/-! ### One city -/

section City

variable {armies : List ArmyState} {cityId : String} {city : CityState}

theorem mem_armiesAtCity {army : ArmyState} : army ∈ armiesAtCity armies cityId ↔ army ∈ armies ∧ army.stationedAt cityId :=
  List.mem_filter

theorem mem_ownersOf {owner : String} : owner ∈ ownersOf armies ↔ ∃ army ∈ armies, army.owner = owner := by
  rw [ownersOf, List.mem_dedup, List.mem_map]

theorem length_ownersOf_le_one_iff :
    (ownersOf (armiesAtCity armies cityId)).length ≤ 1 ↔ ¬ Contested armies cityId := by
  have hnodup : (ownersOf (armiesAtCity armies cityId)).Nodup := List.nodup_dedup _
  constructor
  · intro hlength hcontested
    obtain ⟨army, harmy, other, hother, hstationed, hstationed', hne⟩ := hcontested
    have hmem := mem_ownersOf.2 ⟨army, mem_armiesAtCity.2 ⟨harmy, hstationed⟩, rfl⟩
    have hmem' := mem_ownersOf.2 ⟨other, mem_armiesAtCity.2 ⟨hother, hstationed'⟩, rfl⟩
    match hlist : ownersOf (armiesAtCity armies cityId) with
    | [] =>
        rw [hlist] at hmem
        exact List.not_mem_nil hmem
    | [owner] =>
        rw [hlist, List.mem_singleton] at hmem hmem'
        exact hne (hmem.trans hmem'.symm)
    | _ :: _ :: _ =>
        rw [hlist] at hlength
        simp at hlength
  · intro hpeace
    match hlist : ownersOf (armiesAtCity armies cityId) with
    | [] => exact Nat.zero_le _
    | [_] => exact le_rfl
    | first :: second :: rest =>
        exfalso
        apply hpeace
        obtain ⟨army, harmy, hfirst⟩ := mem_ownersOf.1 (show first ∈ ownersOf (armiesAtCity armies cityId) by simp [hlist])
        obtain ⟨other, hother, hsecond⟩ := mem_ownersOf.1 (show second ∈ ownersOf (armiesAtCity armies cityId) by simp [hlist])
        rw [hlist] at hnodup
        refine ⟨army, (mem_armiesAtCity.1 harmy).1, other, (mem_armiesAtCity.1 hother).1, (mem_armiesAtCity.1 harmy).2,
          (mem_armiesAtCity.1 hother).2, ?_⟩
        rw [hfirst, hsecond]
        intro heq
        simp [heq] at hnodup

theorem get?_armiesByOwner (owner : String) :
    (armiesByOwner armies).get? owner =
      if owner ∈ ownersOf armies then some (armies.filter fun army => army.owner = owner) else none := by
  simp only [ownersOf, List.mem_dedup]
  exact OrdDict.get?_foldl_upsert_group ArmyState.owner armies owner

theorem keys_armiesByOwner_perm : (armiesByOwner armies).keys.Perm (ownersOf armies) := by
  have hnodup : (ownersOf armies).Nodup := List.nodup_dedup _
  rw [List.perm_ext_iff_of_nodup (OrdDict.keys_nodup _) hnodup]
  intro owner
  rw [OrdDict.mem_keys, get?_armiesByOwner]
  by_cases howner : owner ∈ ownersOf armies
  · simp [howner]
  · simp [howner]

theorem armiesByOwner_entry {entry : String × List ArmyState} (hentry : entry ∈ (armiesByOwner armies).entries) :
    entry.1 ∈ ownersOf armies ∧ entry.2 = armies.filter fun army => army.owner = entry.1 := by
  have hget := OrdDict.get?_eq_some.2 hentry
  rw [get?_armiesByOwner] at hget
  split at hget
  · rename_i howner
    exact ⟨howner, (Option.some.inj hget).symm⟩
  · cases hget

theorem get?_combatCasualtiesByOwner {owner : String} (howner : owner ∈ ownersOf (armiesAtCity armies cityId)) :
    (combatCasualtiesByOwner (armiesAtCity armies cityId) city.owner city.upgrades.fortification).get? owner =
      some (stackLosses armies cityId city owner) := by
  have hopposing : ((((armiesByOwner (armiesAtCity armies cityId)).entries.map fun entry =>
        (entry.1, effectiveCombatStrength (troopTotal entry.2) (some entry.1 = city.owner)
          city.upgrades.fortification)).filter fun entry => entry.1 ≠ owner).map Prod.snd).sum =
      opposingStrength armies cityId city owner := by
    unfold opposingStrength
    rw [← ((keys_armiesByOwner_perm.filter _).map _).sum_eq, OrdDict.keys, List.filter_map, List.filter_map,
      List.map_map, List.map_map]
    congr 1
    apply List.map_congr_left
    intro entry hentry
    obtain ⟨-, hstack⟩ := armiesByOwner_entry (List.mem_of_mem_filter hentry)
    simp only [Function.comp_apply, stackStrength, stackAt, hstack]
  unfold combatCasualtiesByOwner
  simp only [OrdDict.get?_mapVals, get?_armiesByOwner, if_pos howner, Option.map_some, Option.some.injEq]
  unfold stackLosses
  rw [← hopposing, stackAt]
  simp only [OrdDict.mapVals, List.map_map]
  rfl

/-- A stack's casualties charge its own armies, each with its share. -/
theorem keyedSum_stack (hnodup : (armies.map (·.id)).Nodup) {army : ArmyState} (harmy : army ∈ armies)
    {entry : String × List ArmyState} (hentry : entry ∈ (armiesByOwner (armiesAtCity armies cityId)).entries) :
    keyedSum (allocateProportionalCasualties entry.2 (((combatCasualtiesByOwner (armiesAtCity armies cityId) city.owner
        city.upgrades.fortification).get? entry.1).getD 0)) army.id =
      if army.stationedAt cityId ∧ army.owner = entry.1 then
        casualtyShare (stackAt armies cityId entry.1) (stackLosses armies cityId city entry.1) army
      else 0 := by
  obtain ⟨howner, hstack⟩ := armiesByOwner_entry hentry
  have hids := id_nodup_stackAt hnodup cityId entry.1
  rw [get?_combatCasualtiesByOwner howner, hstack, Option.getD_some]
  change keyedSum (allocateProportionalCasualties (stackAt armies cityId entry.1) _) _ = _
  rw [keyedSum_allocateProportionalCasualties hids (stackLosses_le _ _ _ _)]
  by_cases hmem : army.stationedAt cityId ∧ army.owner = entry.1
  · have hstacked : army ∈ stackAt armies cityId entry.1 :=
      List.mem_filter.2 ⟨mem_armiesAtCity.2 ⟨harmy, hmem.1⟩, decide_eq_true hmem.2⟩
    rw [if_pos hmem, find?_id_of_nodup (id_nodup_orderedArmies hids) ((orderedArmies_perm _).mem_iff.2 hstacked)]
    rfl
  · rw [if_neg hmem]
    cases hfind : (orderedArmies (stackAt armies cityId entry.1)).find? fun other => other.id = army.id with
    | none => rfl
    | some other =>
        exfalso
        have hid : other.id = army.id := by simpa using List.find?_some hfind
        have hother := (orderedArmies_perm _).mem_iff.1 (List.mem_of_find?_eq_some hfind)
        obtain rfl := List.inj_on_of_nodup_map hnodup ((stackAt_sublist _ _ _).subset hother) harmy hid
        obtain ⟨hat, hown⟩ := List.mem_filter.1 hother
        exact hmem ⟨(mem_armiesAtCity.1 hat).2, of_decide_eq_true hown⟩

theorem keyedSum_cityCasualties (hnodup : (armies.map (·.id)).Nodup) {army : ArmyState}
    (harmy : army ∈ armiesAtCity armies cityId) (hcontested : Contested armies cityId) :
    keyedSum (cityCasualties armies cityId city) army.id =
      casualtyShare (stackAt armies cityId army.owner) (stackLosses armies cityId city army.owner) army := by
  obtain ⟨hknown, hstationed⟩ := mem_armiesAtCity.1 harmy
  have hentry : (army.owner, stackAt armies cityId army.owner) ∈ (armiesByOwner (armiesAtCity armies cityId)).entries := by
    rw [← OrdDict.get?_eq_some, get?_armiesByOwner, if_pos (mem_ownersOf.2 ⟨army, harmy, rfl⟩)]
    rfl
  unfold cityCasualties
  dsimp only
  rw [if_neg fun hlength => length_ownersOf_le_one_iff.1 hlength hcontested, keyedSum_flatMap,
    List.sum_map_eq_of_forall_ne (OrdDict.entries_nodup _) hentry, keyedSum_stack hnodup hknown hentry,
    if_pos ⟨hstationed, rfl⟩]
  intro entry hentry' hne
  rw [keyedSum_stack hnodup hknown hentry', if_neg]
  intro h
  apply hne
  obtain ⟨-, hstack⟩ := armiesByOwner_entry hentry'
  exact Prod.ext h.2.symm (by rw [hstack, ← h.2]; rfl)

theorem keyedSum_cityCasualties_of_spared (hnodup : (armies.map (·.id)).Nodup) {army : ArmyState} (harmy : army ∈ armies)
    (hspared : ¬ (army.stationedAt cityId ∧ Contested armies cityId)) :
    keyedSum (cityCasualties armies cityId city) army.id = 0 := by
  unfold cityCasualties
  dsimp only
  split
  · rfl
  · rename_i hlength
    rw [length_ownersOf_le_one_iff, not_not] at hlength
    rw [keyedSum_flatMap]
    apply List.sum_eq_zero
    intro n hn
    obtain ⟨entry, hentry, rfl⟩ := List.mem_map.1 hn
    rw [keyedSum_stack hnodup harmy hentry, if_neg fun h => hspared ⟨h.1, hlength⟩]

end City

/-! ### The phase -/

section Phase

variable {state : MatchState}

def combatLosses (state : MatchState) (army : ArmyState) : Nat := ((casualtiesByArmyId state).get? army.id).getD 0

theorem combatLosses_eq (state : MatchState) (army : ArmyState) :
    combatLosses state army =
      (state.cities.entries.map fun entry => keyedSum (cityCasualties state.armies entry.1 entry.2) army.id).sum := by
  unfold combatLosses casualtiesByArmyId
  rw [OrdDict.getD_foldl_upsert_add, keyedSum_flatMap]

theorem combatLosses_contested (hnodup : (state.armies.map (·.id)).Nodup) {cityId : String} {city : CityState}
    (hcity : state.cities.get? cityId = some city) (hcontested : Contested state.armies cityId) {army : ArmyState}
    (harmy : army ∈ armiesAtCity state.armies cityId) :
    combatLosses state army =
      casualtyShare (stackAt state.armies cityId army.owner) (stackLosses state.armies cityId city army.owner) army := by
  obtain ⟨hknown, hstationed⟩ := mem_armiesAtCity.1 harmy
  rw [combatLosses_eq, List.sum_map_eq_of_forall_ne (OrdDict.entries_nodup _) (OrdDict.get?_eq_some.1 hcity),
    keyedSum_cityCasualties hnodup harmy hcontested]
  intro entry hentry hne
  apply keyedSum_cityCasualties_of_spared hnodup hknown
  rintro ⟨hstationed', -⟩
  -- The army stands in one city only.
  have hsame : entry.1 = cityId := by
    simp only [ArmyState.stationedAt, decide_eq_true_eq] at hstationed hstationed'
    exact Option.some.inj (hstationed'.1.symm.trans hstationed.1)
  apply hne
  have hget := OrdDict.get?_eq_some.2 hentry
  rw [hsame, hcity] at hget
  exact Prod.ext hsame (Option.some.inj hget).symm

theorem combatLosses_spared (hnodup : (state.armies.map (·.id)).Nodup) {army : ArmyState} (harmy : army ∈ state.armies)
    (hspared : ¬ Embattled state army) : combatLosses state army = 0 := by
  rw [combatLosses_eq]
  apply List.sum_eq_zero
  intro n hn
  obtain ⟨entry, hentry, rfl⟩ := List.mem_map.1 hn
  apply keyedSum_cityCasualties_of_spared hnodup harmy
  intro h
  exact hspared ⟨entry.1, List.mem_map_of_mem hentry, h.1, h.2⟩

theorem fairLosses_combatLosses (hnodup : (state.armies.map (·.id)).Nodup) : FairLosses state (combatLosses state) where
  total := by
    intro cityId city owner hcity hcontested
    have hsum := sum_casualtyShare (id_nodup_stackAt hnodup cityId owner) (stackLosses_le _ _ city _)
    rw [← hsum]
    congr 1
    apply List.map_congr_left
    intro army harmy
    obtain ⟨hat, howner⟩ := List.mem_filter.1 harmy
    rw [combatLosses_contested hnodup hcity hcontested hat, of_decide_eq_true howner]
  proportional := by
    intro cityId city hcity hcontested army harmy
    rw [combatLosses_contested hnodup hcity hcontested harmy]
    exact casualtyShare_eq_or (id_nodup_stackAt hnodup _ _) (stackLosses_le _ _ _ _)
      (List.mem_filter.2 ⟨harmy, decide_eq_true rfl⟩)
  within := by
    intro army harmy
    by_cases hembattled : Embattled state army
    · obtain ⟨cityId, hkey, hstationed, hcontested⟩ := hembattled
      obtain ⟨city, hcity⟩ := OrdDict.mem_keys.1 hkey
      have hat := mem_armiesAtCity.2 ⟨harmy, hstationed⟩
      rw [combatLosses_contested hnodup hcity hcontested hat]
      exact casualtyShare_le (id_nodup_stackAt hnodup _ _) (stackLosses_le _ _ _ _)
        (List.mem_filter.2 ⟨hat, decide_eq_true rfl⟩)
    · rw [combatLosses_spared hnodup harmy hembattled]
      exact Nat.zero_le _
  spared := fun _ => combatLosses_spared hnodup

end Phase

/-- The combat phase takes from every army of a contested city its fair share of its owner's losses, and nothing from any other army. -/
theorem resolveCombatPhase_casualties (state : MatchState) (hnodup : (state.armies.map (·.id)).Nodup) :
    ∃ losses : ArmyState → Nat, (resolveCombatPhase state).armies = applyLosses losses state.armies ∧
      FairLosses state losses ∧
      ∀ army ∈ state.armies, 0 < army.troops → ¬ Embattled state army → army ∈ (resolveCombatPhase state).armies := by
  have hfair := fairLosses_combatLosses hnodup
  have harmies : (resolveCombatPhase state).armies = applyLosses (combatLosses state) state.armies :=
    armies_transferUncontestedCityControl _
  refine ⟨combatLosses state, harmies, hfair, ?_⟩
  intro army harmy htroops hspared
  have hsame : ({ army with troops := army.troops - combatLosses state army } : ArmyState) = army := by
    rw [hfair.spared army harmy hspared, Nat.sub_zero]
  rw [harmies, applyLosses, List.mem_filter]
  exact ⟨List.mem_map.2 ⟨army, harmy, hsame⟩, decide_eq_true htroops⟩

/-- The duel with two armies of the first player and one of the second in London. -/
def crowdedLondon : MatchState :=
  { duelState with
    armies :=
      [{ duelArmy "a1" "p1" "london" with troops := 30 }, { duelArmy "a2" "p1" "london" with troops := 20 },
        { duelArmy "a3" "p2" "london" with troops := 75 }] }

/-- The first player loses seven troops, of which the smaller army takes three for its larger remainder. -/
theorem resolveCombatPhase_casualties_crowdedLondon :
    (∃ losses : ArmyState → Nat, (resolveCombatPhase crowdedLondon).armies = applyLosses losses crowdedLondon.armies ∧
        FairLosses crowdedLondon losses ∧
        ∀ army ∈ crowdedLondon.armies, 0 < army.troops → ¬ Embattled crowdedLondon army →
          army ∈ (resolveCombatPhase crowdedLondon).armies) ∧
      (resolveCombatPhase crowdedLondon).armies.map (·.troops) = [26, 17, 69] :=
  ⟨resolveCombatPhase_casualties crowdedLondon (by decide), by decide⟩

end IronCouncil
