import IronCouncil.Base.KeyOrder
import IronCouncil.Proof.AllianceHydration
import IronCouncil.Proof.TreatyBreaks

/-!
# Treaties after a restart

The treaty actions and breaks of a match look for a treaty under its parties in the order of their ids, and take the latest one of a type. An active treaty answers to its parties exactly when it stands in that order and no treaty of its parties and type stands behind it. What a match signs is so; what the rows bring back is so only for some rows.
-/

namespace IronCouncil

/-! ### What the parties can do with an active treaty -/

/-- The parties, the acting one first. -/
def MatchTreaty.sides (treaty : MatchTreaty) : List (String × String) :=
  [(treaty.playerAId, treaty.playerBId), (treaty.playerBId, treaty.playerAId)]

/-- Neither party can open a second treaty of the type, either can withdraw this one, and the first accepted attack of one on the other breaks it with the blame on the attacker. -/
structure Operable (record : MatchRecord) (treaty : MatchTreaty) : Prop where
  refused : ∀ side ∈ treaty.sides, ∃ error,
    applyTreatyAction record ⟨side.2, .propose, treaty.treatyType⟩ side.1 = .error error
  withdrawn : ∀ side ∈ treaty.sides, ∃ next,
    applyTreatyAction record ⟨side.2, .withdraw, treaty.treatyType⟩ side.1 =
        .ok (next, treaty.withdraw side.1 record.state.tick) ∧
      next.treaties = record.treaties.set treaty.treatyId (treaty.withdraw side.1 record.state.tick)
  broken : ∀ submissions attack,
    (queuedAttacks record submissions).find? (fun attack => attack ∈ treaty.sides) = some attack →
      (advanceMatchTick (withSubmissions record submissions)).1.treaties[treaty.treatyId]? =
        some (treaty.breakBy attack.1 record.state.tick)

/-- Every treaty's id is its place in the list. -/
def IdsArePlaces (treaties : List MatchTreaty) : Prop :=
  ∀ (k : Nat) (treaty : MatchTreaty), treaties[k]? = some treaty → treaty.treatyId = k

section Operable

variable {record : MatchRecord} {treaty : MatchTreaty}

theorem sortedPair_of_side (hle : treaty.playerAId ≤ treaty.playerBId) {side : String × String}
    (hside : side ∈ treaty.sides) : sortedPair side.1 side.2 = (treaty.playerAId, treaty.playerBId) :=
  (sortedPair_eq_iff hle).2 (List.mem_pair.1 hside)

theorem sortedPair_le (first second : String) : (sortedPair first second).1 ≤ (sortedPair first second).2 := by
  unfold sortedPair
  split
  · rename_i hle
    exact hle
  · rename_i hle
    exact (not_le.1 hle).le

/-- The latest treaty of some parties and a type: none of them and of the type stands behind it. -/
theorem findLatestTreaty_eq_some_iff {treaties : List MatchTreaty} {parties : String × String} {treatyType : TreatyType}
    {latest : MatchTreaty} (hplaces : IdsArePlaces treaties) :
    findLatestTreaty treaties parties treatyType = some latest ↔
      treaties[latest.treatyId]? = some latest ∧ latest.key = (parties, treatyType) ∧
        ∀ (k : Nat) (other : MatchTreaty), latest.treatyId < k → treaties[k]? = some other → other.key ≠ latest.key := by
  have hbetween : ∀ {treaty : MatchTreaty}, treaty.isBetween parties treatyType = true ↔
      treaty.key = (parties, treatyType) := by
    intro treaty
    rw [isBetween_eq, decide_eq_true_eq]
  unfold findLatestTreaty
  rw [List.getLast?_filter_eq_some_iff]
  constructor
  · rintro ⟨k, h⟩
    obtain rfl := hplaces k latest h.getElem?
    have hkey := hbetween.1 h.passes
    refine ⟨h.getElem?, hkey, fun k other hk hother hsame => ?_⟩
    have hfails := h.later k other hk hother
    rw [hbetween.2 (hsame.trans hkey)] at hfails
    cases hfails
  · rintro ⟨hstored, hkey, hlater⟩
    refine ⟨latest.treatyId, hstored, hbetween.2 hkey, fun k other hk hother => ?_⟩
    rw [Bool.eq_false_iff]
    exact fun hsame => hlater k other hk hother ((hbetween.1 hsame).trans hkey.symm)

/-- A withdrawal that answers with a treaty found it as the latest one. -/
theorem findLatestTreaty_of_withdrawn {side : String × String} {treatyType : TreatyType} {next : MatchRecord}
    {stored : MatchTreaty}
    (h : applyTreatyAction record ⟨side.2, .withdraw, treatyType⟩ side.1 = .ok (next, stored)) :
    ∃ latest, findLatestTreaty record.treaties (sortedPair side.1 side.2) treatyType = some latest ∧
      stored = latest.withdraw side.1 record.state.tick := by
  unfold applyTreatyAction at h
  dsimp only at h
  cases hlatest : findLatestTreaty record.treaties (sortedPair side.1 side.2) treatyType with
  | none =>
      rw [hlatest] at h
      cases h
  | some latest =>
      rw [hlatest] at h
      dsimp only [withdrawTreaty] at h
      split at h
      · cases h
      · cases h
        exact ⟨latest, rfl, rfl⟩

/-- An active treaty answers to its parties exactly when they stand in the order of their ids and it is their latest of its type. -/
theorem operable_iff (hplaces : IdsArePlaces record.treaties)
    (hstored : record.treaties[treaty.treatyId]? = some treaty) (hactive : treaty.status = .active) :
    Operable record treaty ↔ treaty.playerAId ≤ treaty.playerBId ∧
      ∀ (k : Nat) (other : MatchTreaty), treaty.treatyId < k → record.treaties[k]? = some other →
        other.key ≠ treaty.key := by
  constructor
  · intro h
    obtain ⟨next, hwithdrawn, -⟩ := h.withdrawn (treaty.playerAId, treaty.playerBId) (List.mem_pair.2 (Or.inl rfl))
    obtain ⟨latest, hlatest, hsame⟩ := findLatestTreaty_of_withdrawn hwithdrawn
    obtain ⟨-, hkey, hlater⟩ := (findLatestTreaty_eq_some_iff hplaces).1 hlatest
    have hid : treaty.treatyId = latest.treatyId := (MatchTreaty.mk.inj hsame).1
    have htreaty : treaty.key = latest.key := by
      obtain ⟨-, hplayerA, hplayerB, htype, -⟩ := MatchTreaty.mk.inj hsame
      unfold MatchTreaty.key
      rw [hplayerA, hplayerB, htype]
    constructor
    · have hparties : (treaty.playerAId, treaty.playerBId) = sortedPair treaty.playerAId treaty.playerBId :=
        congrArg Prod.fst (htreaty.trans hkey)
      have hle := sortedPair_le treaty.playerAId treaty.playerBId
      rw [← hparties] at hle
      exact hle
    · rw [hid, htreaty]
      exact hlater
  · rintro ⟨hle, hlater⟩
    have hlatest : findLatestTreaty record.treaties (treaty.playerAId, treaty.playerBId) treaty.treatyType =
        some treaty := (findLatestTreaty_eq_some_iff hplaces).2 ⟨hstored, rfl, hlater⟩
    obtain ⟨k, hlast⟩ := List.getLast?_filter_eq_some_iff.1 hlatest
    obtain rfl := hplaces k treaty hlast.getElem?
    refine ⟨fun side hside => ?_, fun side hside => ?_, fun submissions attack hattack => ?_⟩
    · refine ⟨unsupportedTransition "propose" treaty.treatyType (treaty.playerAId, treaty.playerBId), ?_⟩
      simp [applyTreatyAction, sortedPair_of_side hle hside, hlatest, proposeTreaty, hactive]
    · refine ⟨recordWorldMessage (updateLatestTreaty record (treaty.playerAId, treaty.playerBId) treaty.treatyType
        (treaty.withdraw side.1 record.state.tick)) record.state.tick
          s!"Treaty withdrawn: {side.1} withdrew the {treaty.treatyType.value} treaty with {side.2}.", ?_, ?_⟩
      · simp [applyTreatyAction, sortedPair_of_side hle hside, hlatest, withdrawTreaty, hactive, MatchTreaty.withdraw]
      · exact hlast.modifyLastWhere_eq fun _ => treaty.withdraw side.1 record.state.tick
    · have hviolates : ∀ other, violates other treaty = decide (other ∈ treaty.sides) := by
        intro other
        rw [Bool.eq_iff_iff, violates_iff hle, decide_eq_true_eq]
        exact and_iff_right hactive
      have hfirst : Latch.firstHit violates (queuedAttacks record submissions) treaty = some attack := by
        rw [Latch.firstHit, ← hattack]
        exact congrArg (fun hits => (queuedAttacks record submissions).find? hits) (funext hviolates)
      have hhit : violates attack treaty = true := by simpa using List.find?_some hfirst
      rw [advanceMatchTick_treaties, List.getElem?_map, hstored, Option.map_some, treatyFate, Latch.fate, hfirst]
      exact congrArg some (breakTreaty_eq_breakBy record.state.tick hhit)

/-- A treaty signed in memory answers to its parties. -/
theorem TreatiesRegular.operable (hregular : TreatiesRegular record.state.tick record.treaties)
    (hmem : treaty ∈ record.treaties) (hactive : treaty.status = .active) : Operable record treaty := by
  obtain ⟨k, hk⟩ := List.getElem?_of_mem hmem
  obtain rfl := hregular.id_index k treaty hk
  refine (operable_iff hregular.id_index hk hactive).2 ⟨(hregular.life treaty hmem).parties_lt.le, ?_⟩
  intro later other hlater hother hkey
  have hopen := List.pairwise_iff_getElem.1 hregular.open_latest
  obtain ⟨hbound, htreaty⟩ := List.getElem?_eq_some_iff.1 hk
  obtain ⟨hbound', hother⟩ := List.getElem?_eq_some_iff.1 hother
  have hclosed := hopen _ _ hbound hbound' hlater
  rw [htreaty, hother] at hclosed
  exact hclosed hkey.symm (Or.inr hactive)

end Operable

/-! ### The order of the rows -/

/-- When a row's treaty was signed, when it ended, and the row's id. -/
def TreatyRow.historyKey (row : TreatyRow) : Nat ×ₗ Int ×ₗ String :=
  toLex (row.signedTick, toLex ((row.brokenTick.map Int.ofNat).getD (-1), row.id))

def CanonicalTreatyRow.sortKey (treaty : CanonicalTreatyRow) : String ×ₗ String ×ₗ String ×ₗ Nat ×ₗ Int ×ₗ String :=
  toLex (treaty.playerAId, toLex (treaty.playerBId, toLex (treaty.row.treatyType.value, treaty.row.historyKey)))

theorem order_isLE_iff (first second : CanonicalTreatyRow) :
    (first.order second).isLE ↔ first.sortKey ≤ second.sortKey := by
  unfold CanonicalTreatyRow.order CanonicalTreatyRow.sortKey TreatyRow.historyKey
  dsimp only
  simp only [isLE_then_compare, isLE_compare_iff, Prod.Lex.toLex_le_toLex]

/-- The rows of a match in the order of their treaties. -/
def canonicalTreatyRows (treatyRows : List TreatyRow) (mapping : PlayerMapping) : List CanonicalTreatyRow :=
  (treatyRows.filterMap (canonicalTreatyRow mapping)).insertionSort fun first second => (first.order second).isLE

theorem canonicalTreatyRow_eq_some {mapping : PlayerMapping} {row : TreatyRow} {treaty : CanonicalTreatyRow} :
    canonicalTreatyRow mapping row = some treaty ↔
      treaty.row = row ∧ mapping.get? row.playerAId = some treaty.playerAId ∧
        mapping.get? row.playerBId = some treaty.playerBId := by
  unfold canonicalTreatyRow
  constructor
  · intro h
    split at h
    · rename_i hplayerA hplayerB
      cases h
      exact ⟨rfl, hplayerA, hplayerB⟩
    · cases h
  · rintro ⟨rfl, hplayerA, hplayerB⟩
    rw [hplayerA, hplayerB]

theorem mem_canonicalTreatyRows {treatyRows : List TreatyRow} {mapping : PlayerMapping} {treaty : CanonicalTreatyRow} :
    treaty ∈ canonicalTreatyRows treatyRows mapping ↔
      treaty.row ∈ treatyRows ∧ mapping.get? treaty.row.playerAId = some treaty.playerAId ∧
        mapping.get? treaty.row.playerBId = some treaty.playerBId := by
  unfold canonicalTreatyRows
  rw [List.mem_insertionSort, List.mem_filterMap]
  constructor
  · rintro ⟨row, hrow, heq⟩
    obtain ⟨rfl, hparties⟩ := canonicalTreatyRow_eq_some.1 heq
    exact ⟨hrow, hparties⟩
  · rintro ⟨hrow, hparties⟩
    exact ⟨treaty.row, hrow, canonicalTreatyRow_eq_some.2 ⟨rfl, hparties⟩⟩

theorem canonicalTreatyRows_pairwise (treatyRows : List TreatyRow) (mapping : PlayerMapping) :
    (canonicalTreatyRows treatyRows mapping).Pairwise fun first second => first.sortKey ≤ second.sortKey := by
  have hsorted := pairwise_key_insertionSort (g := CanonicalTreatyRow.sortKey)
    (treatyRows.filterMap (canonicalTreatyRow mapping))
  unfold canonicalTreatyRows
  simp only [order_isLE_iff]
  exact hsorted

theorem canonicalTreatyRows_nodup {treatyRows : List TreatyRow} (hnodup : (treatyRows.map (·.id)).Nodup)
    (mapping : PlayerMapping) :
    (canonicalTreatyRows treatyRows mapping).Pairwise fun first second => first.row.id ≠ second.row.id := by
  have hrows : (treatyRows.filterMap (canonicalTreatyRow mapping)).Pairwise
      fun first second => first.row.id ≠ second.row.id := by
    rw [List.pairwise_filterMap]
    refine (List.pairwise_map.1 hnodup).imp fun hids first hfirst second hsecond => ?_
    rw [(canonicalTreatyRow_eq_some.1 hfirst).1, (canonicalTreatyRow_eq_some.1 hsecond).1]
    exact hids
  exact ((List.perm_insertionSort _ _).pairwise_iff fun hids => hids.symm).2 hrows

/-- When all parties are mapped the treaties are those of the rows in order. -/
theorem mergePersistedTreaties_eq {treatyRows : List TreatyRow} {mapping : PlayerMapping}
    (hmapped : ∀ row ∈ treatyRows, row.playerAId ∈ mapping.keys ∧ row.playerBId ∈ mapping.keys) :
    mergePersistedTreaties treatyRows mapping = (canonicalTreatyRows treatyRows mapping).mapIdx hydratedTreaty := by
  have hall : treatyRows.mapM (canonicalTreatyRow mapping) =
      some (treatyRows.filterMap (canonicalTreatyRow mapping)) := by
    induction treatyRows with
    | nil => rfl
    | cons row rows ih =>
        obtain ⟨⟨hplayerA, hplayerB⟩, hrest⟩ := List.forall_mem_cons.1 hmapped
        obtain ⟨playerAId, hplayerA⟩ := OrdDict.mem_keys.1 hplayerA
        obtain ⟨playerBId, hplayerB⟩ := OrdDict.mem_keys.1 hplayerB
        have hrow : canonicalTreatyRow mapping row = some ⟨playerAId, playerBId, row⟩ :=
          canonicalTreatyRow_eq_some.2 ⟨rfl, hplayerA, hplayerB⟩
        rw [List.mapM_cons, hrow, ih hrest, List.filterMap_cons_some hrow]
        rfl
  unfold mergePersistedTreaties canonicalTreatyRows
  rw [hall]

/-! ### Which rows bring back a treaty that answers to its parties -/

/-- The row's parties stand in the order of their ids, and the rows of the same parties and type precede it in the order of their ticks and ids. -/
structure TreatyRow.Settles (row : TreatyRow) (treatyRows : List TreatyRow) (mapping : PlayerMapping) : Prop where
  ordered : ∀ playerAId playerBId, mapping.get? row.playerAId = some playerAId →
    mapping.get? row.playerBId = some playerBId → playerAId ≤ playerBId
  latest : ∀ other ∈ treatyRows, other ≠ row →
    mapping.get? other.playerAId = mapping.get? row.playerAId →
      mapping.get? other.playerBId = mapping.get? row.playerBId → other.treatyType = row.treatyType →
        other.historyKey < row.historyKey

theorem hydratedTreaty_key (treatyId : Nat) (treaty : CanonicalTreatyRow) :
    (hydratedTreaty treatyId treaty).key = ((treaty.playerAId, treaty.playerBId), treaty.row.treatyType) := rfl

theorem sortKey_le_iff (first second : CanonicalTreatyRow) (hplayerA : first.playerAId = second.playerAId)
    (hplayerB : first.playerBId = second.playerBId) (htype : first.row.treatyType = second.row.treatyType) :
    first.sortKey ≤ second.sortKey ↔ first.row.historyKey ≤ second.row.historyKey := by
  simp [CanonicalTreatyRow.sortKey, Prod.Lex.toLex_le_toLex, hplayerA, hplayerB, htype]

section Hydrated

variable {treatyRows : List TreatyRow} {mapping : PlayerMapping} {record : MatchRecord}
  (hmapped : ∀ row ∈ treatyRows, row.playerAId ∈ mapping.keys ∧ row.playerBId ∈ mapping.keys)
  (htreaties : record.treaties = mergePersistedTreaties treatyRows mapping)

include hmapped htreaties

theorem getElem?_hydrated (k : Nat) :
    record.treaties[k]? = ((canonicalTreatyRows treatyRows mapping)[k]?).map (hydratedTreaty k) := by
  rw [htreaties, mergePersistedTreaties_eq hmapped, List.getElem?_mapIdx]

theorem idsArePlaces_hydrated : IdsArePlaces record.treaties := by
  intro k treaty htreaty
  rw [getElem?_hydrated hmapped htreaties] at htreaty
  obtain ⟨canonicalRow, -, rfl⟩ := Option.map_eq_some_iff.1 htreaty
  rfl

/-- The treaty of an active row answers to its parties exactly when the row settles their affairs of its type. -/
theorem operable_hydrated_iff (hnodup : (treatyRows.map (·.id)).Nodup) {k : Nat} {treaty : CanonicalTreatyRow}
    (hplace : (canonicalTreatyRows treatyRows mapping)[k]? = some treaty) (hactive : treaty.row.status = .active) :
    Operable record (hydratedTreaty k treaty) ↔ treaty.row.Settles treatyRows mapping := by
  have hget := getElem?_hydrated hmapped htreaties
  have hstored : record.treaties[(hydratedTreaty k treaty).treatyId]? = some (hydratedTreaty k treaty) := by
    rw [hget]
    exact congrArg (Option.map (hydratedTreaty k)) hplace
  have hstatus : (hydratedTreaty k treaty).status = .active := congrArg PersistedTreatyStatus.toTreatyStatus hactive
  obtain ⟨hmem, hplayerA, hplayerB⟩ := mem_canonicalTreatyRows.1 (List.mem_of_getElem? hplace)
  have hsorted := List.pairwise_iff_getElem.1 (canonicalTreatyRows_pairwise treatyRows mapping)
  obtain ⟨hbound, hthere⟩ := List.getElem?_eq_some_iff.1 hplace
  rw [operable_iff (idsArePlaces_hydrated hmapped htreaties) hstored hstatus]
  constructor
  · rintro ⟨hle, hlater⟩
    refine ⟨fun playerAId playerBId hfirst hsecond => ?_, fun other hother hne hsameA hsameB htype => ?_⟩
    · rw [hplayerA] at hfirst
      rw [hplayerB] at hsecond
      cases hfirst
      cases hsecond
      exact hle
    · -- The other row has a place of its own, which is not behind this one's.
      have hcanonical : (⟨treaty.playerAId, treaty.playerBId, other⟩ : CanonicalTreatyRow) ∈
          canonicalTreatyRows treatyRows mapping :=
        mem_canonicalTreatyRows.2 ⟨hother, hsameA.trans hplayerA, hsameB.trans hplayerB⟩
      obtain ⟨j, hj⟩ := List.getElem?_of_mem hcanonical
      obtain ⟨hjbound, hjthere⟩ := List.getElem?_eq_some_iff.1 hj
      have hbefore : j < k := by
        rcases lt_trichotomy j k with hlt | rfl | hgt
        · exact hlt
        · rw [hplace] at hj
          exact absurd (congrArg CanonicalTreatyRow.row (Option.some.inj hj)).symm hne
        · have hbehind : record.treaties[j]? = some (hydratedTreaty j ⟨treaty.playerAId, treaty.playerBId, other⟩) := by
            rw [hget, hj]
            rfl
          refine absurd ?_ (hlater j _ hgt hbehind)
          rw [hydratedTreaty_key, hydratedTreaty_key, htype]
      have hkeys := hsorted j k hjbound hbound hbefore
      rw [hjthere, hthere] at hkeys
      rw [sortKey_le_iff ⟨treaty.playerAId, treaty.playerBId, other⟩ treaty rfl rfl htype] at hkeys
      refine lt_of_le_of_ne hkeys fun hsame => hne ?_
      have hids : other.id = treaty.row.id := congrArg (fun key => (ofLex (ofLex key).2).2) hsame
      exact List.inj_on_of_nodup_map hnodup hother hmem hids
  · intro hsettles
    refine ⟨hsettles.ordered _ _ hplayerA hplayerB, fun j stored hj hbehind hsame => ?_⟩
    rw [hget] at hbehind
    obtain ⟨other, hother, rfl⟩ := Option.map_eq_some_iff.1 hbehind
    obtain ⟨hotherMem, hotherA, hotherB⟩ := mem_canonicalTreatyRows.1 (List.mem_of_getElem? hother)
    obtain ⟨hjbound, hjthere⟩ := List.getElem?_eq_some_iff.1 hother
    obtain ⟨hparties, htype⟩ := Prod.mk.inj hsame
    obtain ⟨hsameA, hsameB⟩ := Prod.mk.inj hparties
    have hids : other.row.id ≠ treaty.row.id := by
      have hdistinct := List.pairwise_iff_getElem.1 (canonicalTreatyRows_nodup hnodup mapping) k j hbound hjbound hj
      rw [hthere, hjthere] at hdistinct
      exact hdistinct.symm
    have hearlier := hsettles.latest other.row hotherMem (fun hrow => hids (congrArg TreatyRow.id hrow))
      (by rw [hotherA, hplayerA]; exact congrArg some hsameA) (by rw [hotherB, hplayerB]; exact congrArg some hsameB)
      htype
    have hkeys := hsorted k j hbound hjbound hj
    rw [hthere, hjthere, sortKey_le_iff treaty other hsameA.symm hsameB.symm htype.symm] at hkeys
    exact absurd hearlier (not_lt.2 hkeys)

end Hydrated

def Database.treatiesOfMatch (db : Database) (matchId : String) : List TreatyRow :=
  db.treaties.rows.filter fun row => row.matchId = matchId

/-- After a load whose rows are all mapped, each active row has brought back a treaty, which answers to its parties exactly when the row settles their affairs of its type. -/
theorem hydratedTreaty_operable_iff {db : Database} {state : MatchState} {matchId : String} {record : MatchRecord}
    (htreaties : record.treaties =
      loadPersistedTreaties db.treaties.rows state (db.playersOfMatch matchId) matchId)
    (hmapped : ∀ row ∈ db.treatiesOfMatch matchId,
      row.playerAId ∈ (persistedPlayerMapping state (db.playersOfMatch matchId)).keys ∧
        row.playerBId ∈ (persistedPlayerMapping state (db.playersOfMatch matchId)).keys) :
    ∀ row ∈ db.treatiesOfMatch matchId, row.status = .active →
      ∃ k treaty,
        (canonicalTreatyRows (db.treatiesOfMatch matchId)
            (persistedPlayerMapping state (db.playersOfMatch matchId)))[k]? = some treaty ∧
          treaty.row = row ∧ record.treaties[k]? = some (hydratedTreaty k treaty) ∧
          (Operable record (hydratedTreaty k treaty) ↔
            row.Settles (db.treatiesOfMatch matchId) (persistedPlayerMapping state (db.playersOfMatch matchId))) := by
  intro row hrow hactive
  obtain ⟨hplayerA, hplayerB⟩ := hmapped row hrow
  obtain ⟨playerAId, hplayerA⟩ := OrdDict.mem_keys.1 hplayerA
  obtain ⟨playerBId, hplayerB⟩ := OrdDict.mem_keys.1 hplayerB
  obtain ⟨k, hk⟩ := List.getElem?_of_mem (mem_canonicalTreatyRows.2
    (⟨hrow, hplayerA, hplayerB⟩ : (⟨playerAId, playerBId, row⟩ : CanonicalTreatyRow).row ∈ _ ∧ _ ∧ _))
  have hnodup : ((db.treatiesOfMatch matchId).map (·.id)).Nodup :=
    db.treaties.nodup.sublist (List.filter_sublist.map _)
  refine ⟨k, _, hk, rfl, ?_, operable_hydrated_iff hmapped htreaties hnodup hk hactive⟩
  rw [getElem?_hydrated hmapped htreaties, hk]
  rfl

/-! ### Treaties of the allies -/

def pactRow (id playerAId playerBId : String) (status : PersistedTreatyStatus) (brokenTick : Option Nat) :
    TreatyRow where
  id := id
  matchId := deploymentMatchId
  playerAId := playerAId
  playerBId := playerBId
  treatyType := .nonAggression
  status := status
  signedTick := 5
  brokenTick := brokenTick

def firstPactId : String := "40d8a1f7-92c3-4be5-b06e-73fa581c9d20"

def secondPactId : String := "e17f5b94-0a6d-4c82-9d35-28c46b7130fa"

def firstAlly : String := buildMatchScopedPlayerId deploymentMatchId 1

def secondAlly : String := buildMatchScopedPlayerId deploymentMatchId 2

/-- The second player is the first party of the row. -/
def reversedPact : List TreatyRow := [pactRow firstPactId secondAlly firstAlly .active none]

/-- A pact that was withdrawn in the tick it was signed in, and signed again in that tick. -/
def renewedPact : List TreatyRow :=
  [pactRow firstPactId firstAlly secondAlly .withdrawn (some 5), pactRow secondPactId firstAlly secondAlly .active none]

def hydratedAllies (treatyRows : List TreatyRow) : MatchRecord :=
  { MatchRecord.ofState deploymentMatchId .active alliedState with
    treaties := loadPersistedTreaties treatyRows alliedState ((alliedDatabase 2).playersOfMatch deploymentMatchId) deploymentMatchId }

/-- The players' match with some treaty rows. -/
def alliesWith (treatyRows : List TreatyRow) (hnodup : (treatyRows.map (·.id)).Nodup) : Database :=
  { alliedDatabase 2 with treaties := ⟨treatyRows, hnodup⟩ }

theorem hydratedTreaty_operable_iff_renewed :
    ∃ k treaty,
      (canonicalTreatyRows ((alliesWith renewedPact (by decide)).treatiesOfMatch deploymentMatchId)
          (persistedPlayerMapping alliedState ((alliedDatabase 2).playersOfMatch deploymentMatchId)))[k]? = some treaty ∧
        treaty.row = pactRow secondPactId firstAlly secondAlly .active none ∧
        (hydratedAllies renewedPact).treaties[k]? = some (hydratedTreaty k treaty) ∧
        (Operable (hydratedAllies renewedPact) (hydratedTreaty k treaty) ↔
          (pactRow secondPactId firstAlly secondAlly .active none).Settles
            ((alliesWith renewedPact (by decide)).treatiesOfMatch deploymentMatchId)
            (persistedPlayerMapping alliedState ((alliedDatabase 2).playersOfMatch deploymentMatchId))) :=
  hydratedTreaty_operable_iff (show (hydratedAllies renewedPact).treaties = loadPersistedTreaties
    (alliesWith renewedPact (by decide)).treaties.rows alliedState ((alliedDatabase 2).playersOfMatch deploymentMatchId) deploymentMatchId from rfl)
    (by decide +kernel) _ (by decide +kernel) rfl

/-- A party of an operable treaty cannot open another of the type. -/
theorem not_operable_of_proposed {record : MatchRecord} {treaty : MatchTreaty}
    (h : (applyTreatyAction record ⟨treaty.playerBId, .propose, treaty.treatyType⟩ treaty.playerAId).toOption.isSome) :
    ¬ Operable record treaty := by
  intro hoperable
  obtain ⟨error, herror⟩ :=
    hoperable.refused (treaty.playerAId, treaty.playerBId) (List.mem_pair.2 (Or.inl rfl))
  dsimp only at herror
  rw [herror] at h
  cases h

/-- Both parties of each row are mapped and each match has an active treaty, yet its parties can propose a second one. -/
theorem hydrated_pacts_inoperable :
    (∀ row ∈ reversedPact ++ renewedPact,
      row.playerAId ∈ (persistedPlayerMapping alliedState ((alliedDatabase 2).playersOfMatch deploymentMatchId)).keys ∧
        row.playerBId ∈ (persistedPlayerMapping alliedState ((alliedDatabase 2).playersOfMatch deploymentMatchId)).keys) ∧
      (∃ treaty, (hydratedAllies reversedPact).treaties = [treaty] ∧ treaty.status = .active ∧
        ¬ Operable (hydratedAllies reversedPact) treaty) ∧
      ∃ treaty earlier, (hydratedAllies renewedPact).treaties = [treaty, earlier] ∧ treaty.status = .active ∧
        ¬ Operable (hydratedAllies renewedPact) treaty := by
  refine ⟨by decide +kernel, ⟨hydratedTreaty 0 ⟨"player-2", "player-1", pactRow firstPactId secondAlly firstAlly
    .active none⟩, by decide +kernel, rfl, ?_⟩, hydratedTreaty 0 ⟨"player-1", "player-2", pactRow secondPactId firstAlly
      secondAlly .active none⟩, hydratedTreaty 1 ⟨"player-1", "player-2", pactRow firstPactId firstAlly secondAlly
        .withdrawn (some 5)⟩, by decide +kernel, rfl, ?_⟩
  · exact not_operable_of_proposed (by decide +kernel)
  · exact not_operable_of_proposed (by decide +kernel)

end IronCouncil
