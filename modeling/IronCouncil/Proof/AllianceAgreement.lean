import IronCouncil.Base.KeyOrder
import IronCouncil.Proof.RecordRuns
import IronCouncil.Resolver.Frames

/-!
# Stored alliances and the players' alliance ids

Membership is kept twice: in the stored alliances and in the `allianceId` of each player. Read as functions from players to alliance ids, both are updated at the acting player only, and by the same value.
-/

namespace IronCouncil

/-! ### Two readings of membership -/

def MatchAlliance.memberIds (alliance : MatchAlliance) : List String := alliance.members.map (·.playerId)

def MemberOf (alliances : List MatchAlliance) (playerId allianceId : String) : Prop :=
  ∃ alliance ∈ alliances, alliance.allianceId = allianceId ∧ playerId ∈ alliance.memberIds

def allianceOf (state : MatchState) (playerId : String) : Option String :=
  (state.players.get? playerId).bind (·.allianceId)

structure AllianceWellFormed (alliance : MatchAlliance) : Prop where
  members_ne_nil : alliance.members ≠ []
  members_nodup : alliance.memberIds.Nodup
  leader_mem : alliance.leaderId ∈ alliance.memberIds

/-- A player is a member of a stored alliance exactly when it wears the alliance's id. -/
structure AlliancesAgree (record : MatchRecord) : Prop where
  member_iff : ∀ playerId allianceId,
    MemberOf record.alliances playerId allianceId ↔ allianceOf record.state playerId = some allianceId
  ids_nodup : (record.alliances.map (·.allianceId)).Nodup
  wellFormed : ∀ alliance ∈ record.alliances, AllianceWellFormed alliance

theorem allianceOf_eq_some {state : MatchState} {playerId allianceId : String} :
    allianceOf state playerId = some allianceId ↔ (playerId, some allianceId) ∈ state.memberships := by
  rw [MatchState.mem_memberships, allianceOf, Option.bind_eq_some_iff]

theorem allianceOf_self {state : MatchState} {playerId : String} {player : PlayerState}
    (hplayer : state.players.get? playerId = some player) : allianceOf state playerId = player.allianceId := by
  rw [allianceOf, hplayer, Option.bind_some]

theorem allianceOf_of_memberships {state state' : MatchState} (h : state'.memberships = state.memberships) :
    allianceOf state' = allianceOf state := by
  funext playerId
  apply Option.ext
  intro allianceId
  rw [allianceOf_eq_some, allianceOf_eq_some, h]

theorem allianceOf_setAlliance {state : MatchState} {playerId : String} {player : PlayerState}
    (hplayer : state.players.get? playerId = some player) (allianceId : Option String) :
    allianceOf (setAlliance state playerId allianceId) = Function.update (allianceOf state) playerId allianceId := by
  funext member
  rw [Function.update_apply]
  unfold allianceOf setAlliance MatchState.modifyPlayer
  dsimp only
  rw [OrdDict.get?_modify]
  by_cases hmember : member = playerId
  · subst hmember
    simp [hplayer]
  · simp [hmember]

theorem allianceOf_storeAlliances {record : MatchRecord} {playerId : String} {player : PlayerState}
    (hplayer : record.state.players.get? playerId = some player) (alliances : List MatchAlliance)
    (allianceId : Option String) :
    allianceOf (storeAlliances record alliances playerId allianceId).state =
      Function.update (allianceOf record.state) playerId allianceId :=
  (allianceOf_of_memberships rfl).trans (allianceOf_setAlliance hplayer allianceId)

/-! ### Members after an update of the list -/

theorem nextAllianceId_not_mem (alliances : List MatchAlliance) :
    nextAllianceId alliances ∉ alliances.map (·.allianceId) :=
  nextFree_not_mem (numberedName_injective "alliance-") _ 1

theorem findAlliance_eq_some {alliances : List MatchAlliance} {allianceId : String} {alliance : MatchAlliance}
    (h : findAlliance alliances allianceId = some alliance) :
    alliance ∈ alliances ∧ alliance.allianceId = allianceId :=
  ⟨List.mem_of_find?_eq_some h, by simpa using List.find?_some h⟩

theorem memberOf_append {alliances : List MatchAlliance} {created : MatchAlliance}
    (hfresh : created.allianceId ∉ alliances.map (·.allianceId)) (playerId allianceId : String) :
    MemberOf (alliances ++ [created]) playerId allianceId ↔
      if allianceId = created.allianceId then playerId ∈ created.memberIds else MemberOf alliances playerId allianceId := by
  unfold MemberOf
  split
  · rename_i hid
    subst hid
    constructor
    · rintro ⟨alliance, hmem, hid, hplayer⟩
      rcases List.mem_append.1 hmem with hmem | hmem
      · exact absurd (hid ▸ List.mem_map_of_mem hmem) hfresh
      · rwa [List.mem_singleton.1 hmem] at hplayer
    · intro hplayer
      exact ⟨created, by simp, rfl, hplayer⟩
  · rename_i hid
    constructor
    · rintro ⟨alliance, hmem, rfl, hplayer⟩
      rcases List.mem_append.1 hmem with hmem | hmem
      · exact ⟨alliance, hmem, rfl, hplayer⟩
      · exact absurd (congrArg MatchAlliance.allianceId (List.mem_singleton.1 hmem)) hid
    · rintro ⟨alliance, hmem, heq, hplayer⟩
      exact ⟨alliance, List.mem_append_left _ hmem, heq, hplayer⟩

theorem memberOf_filter {alliances : List MatchAlliance} {dissolved playerId allianceId : String} :
    MemberOf (alliances.filter fun stored => stored.allianceId ≠ dissolved) playerId allianceId ↔
      allianceId ≠ dissolved ∧ MemberOf alliances playerId allianceId := by
  unfold MemberOf
  constructor
  · rintro ⟨alliance, hmem, rfl, hplayer⟩
    obtain ⟨hmem, hkept⟩ := List.mem_filter.1 hmem
    exact ⟨by simpa using hkept, alliance, hmem, rfl, hplayer⟩
  · rintro ⟨hkept, alliance, hmem, rfl, hplayer⟩
    exact ⟨alliance, List.mem_filter.2 ⟨hmem, by simpa using hkept⟩, rfl, hplayer⟩

section Replace

variable {alliances : List MatchAlliance} {stored replaced : MatchAlliance}
  (hnodup : (alliances.map (·.allianceId)).Nodup) (hstored : stored ∈ alliances)
  (hid : replaced.allianceId = stored.allianceId)
include hnodup

/-- The list after the alliance under an id has been replaced. -/
theorem mem_replaceAlliance {alliance : MatchAlliance} :
    alliance ∈ alliances.modifyFirstWhere (fun other => other.allianceId = stored.allianceId) (fun _ => replaced) ↔
      (∃ other ∈ alliances, other.allianceId = stored.allianceId ∧ alliance = replaced) ∨
        (alliance ∈ alliances ∧ alliance.allianceId ≠ stored.allianceId) := by
  rw [List.modifyFirstWhere_eq_map hnodup, List.mem_map]
  constructor
  · rintro ⟨other, hother, rfl⟩
    by_cases hkey : other.allianceId = stored.allianceId
    · exact Or.inl ⟨other, hother, hkey, if_pos hkey⟩
    · exact Or.inr ⟨by rwa [if_neg hkey], by rwa [if_neg hkey]⟩
  · rintro (⟨other, hother, hkey, rfl⟩ | ⟨hmem, hkey⟩)
    · exact ⟨other, hother, if_pos hkey⟩
    · exact ⟨alliance, hmem, if_neg hkey⟩

include hid in
theorem ids_replaceAlliance :
    (alliances.modifyFirstWhere (fun other => other.allianceId = stored.allianceId) fun _ => replaced).map
      (·.allianceId) = alliances.map (·.allianceId) := by
  rw [List.modifyFirstWhere_eq_map hnodup, List.map_map]
  apply List.map_congr_left
  intro alliance _
  dsimp only [Function.comp_apply]
  split
  · rename_i hkey
    exact hid.trans hkey.symm
  · rfl

include hstored hid in
theorem memberOf_replaceAlliance (playerId allianceId : String) :
    MemberOf (alliances.modifyFirstWhere (fun other => other.allianceId = stored.allianceId) fun _ => replaced)
        playerId allianceId ↔
      if allianceId = stored.allianceId then playerId ∈ replaced.memberIds else MemberOf alliances playerId allianceId := by
  unfold MemberOf
  simp only [mem_replaceAlliance hnodup]
  split
  · rename_i hkey
    subst hkey
    constructor
    · rintro ⟨alliance, ⟨-, -, -, rfl⟩ | ⟨-, hne⟩, heq, hplayer⟩
      · exact hplayer
      · exact absurd heq hne
    · intro hplayer
      exact ⟨replaced, Or.inl ⟨stored, hstored, rfl, rfl⟩, hid, hplayer⟩
  · rename_i hkey
    constructor
    · rintro ⟨alliance, ⟨-, -, -, rfl⟩ | ⟨hmem, -⟩, rfl, hplayer⟩
      · exact absurd hid hkey
      · exact ⟨alliance, hmem, rfl, hplayer⟩
    · rintro ⟨alliance, hmem, rfl, hplayer⟩
      exact ⟨alliance, Or.inr ⟨hmem, hkey⟩, rfl, hplayer⟩

end Replace

/-! ### Alliance actions -/

section Actions

variable {record : MatchRecord} (hagree : AlliancesAgree record) {playerId : String} {player : PlayerState}
  (hplayer : record.state.players.get? playerId = some player)
include hagree hplayer

theorem alliancesAgree_create (hfree : player.allianceId = none) {created : MatchAlliance}
    (hfresh : created.allianceId ∉ record.alliances.map (·.allianceId))
    (hmembers : created.memberIds = [playerId]) (hleader : created.leaderId = playerId) :
    AlliancesAgree (storeAlliances record (record.alliances ++ [created]) playerId (some created.allianceId)) where
  member_iff := by
    intro member allianceId
    rw [allianceOf_storeAlliances hplayer, Function.update_apply]
    change MemberOf (record.alliances ++ [created]) member allianceId ↔ _
    rw [memberOf_append hfresh, hmembers, List.mem_singleton]
    by_cases hid : allianceId = created.allianceId
    · subst hid
      have hunworn : allianceOf record.state member ≠ some created.allianceId := by
        intro hworn
        obtain ⟨alliance, hmem, heq, -⟩ := (hagree.member_iff _ _).2 hworn
        exact hfresh (heq ▸ List.mem_map_of_mem hmem)
      by_cases hmember : member = playerId
      · simp [hmember]
      · simp [hmember, hunworn]
    · rw [if_neg hid, hagree.member_iff]
      by_cases hmember : member = playerId
      · subst hmember
        rw [allianceOf_self hplayer, hfree]
        simp [Ne.symm hid]
      · simp [hmember]
  ids_nodup := by
    change ((record.alliances ++ [created]).map (·.allianceId)).Nodup
    rw [List.map_append, List.nodup_append]
    refine ⟨hagree.ids_nodup, List.nodup_singleton _, ?_⟩
    intro allianceId hmem other hother heq
    rw [List.map_singleton, List.mem_singleton] at hother
    exact hfresh (hother ▸ heq ▸ hmem)
  wellFormed := by
    intro alliance hmem
    rcases List.mem_append.1 hmem with hmem | hmem
    · exact hagree.wellFormed alliance hmem
    · rw [List.mem_singleton.1 hmem]
      refine ⟨?_, ?_, ?_⟩
      · intro hnil
        rw [MatchAlliance.memberIds, hnil] at hmembers
        cases hmembers
      · rw [hmembers]
        exact List.nodup_singleton playerId
      · rw [hmembers, hleader]
        exact List.mem_singleton_self playerId

/-- Replacing the alliance under an id agrees with setting the acting player's alliance if the new members are those that wear the id afterwards. -/
theorem alliancesAgree_replace {stored replaced : MatchAlliance} (hstored : stored ∈ record.alliances)
    (hid : replaced.allianceId = stored.allianceId) (hwell : AllianceWellFormed replaced) {allianceId : Option String}
    (hmembers : ∀ member, member ∈ replaced.memberIds ↔
      Function.update (allianceOf record.state) playerId allianceId member = some stored.allianceId)
    (hothers : ∀ other, other ≠ stored.allianceId → (player.allianceId = some other ↔ allianceId = some other)) :
    AlliancesAgree (storeAlliances record
      (record.alliances.modifyFirstWhere (fun alliance => alliance.allianceId = stored.allianceId) fun _ => replaced)
      playerId allianceId) where
  member_iff := by
    intro member other
    rw [allianceOf_storeAlliances hplayer]
    change MemberOf (record.alliances.modifyFirstWhere _ _) member other ↔ _
    rw [memberOf_replaceAlliance hagree.ids_nodup hstored hid]
    split
    · rename_i hother
      rw [hmembers, hother]
    · rename_i hother
      rw [hagree.member_iff, Function.update_apply]
      split
      · rename_i hmember
        rw [hmember, allianceOf_self hplayer]
        exact hothers other hother
      · exact Iff.rfl
  ids_nodup := by
    change ((record.alliances.modifyFirstWhere _ _).map (·.allianceId)).Nodup
    rw [ids_replaceAlliance hagree.ids_nodup hid]
    exact hagree.ids_nodup
  wellFormed := by
    intro alliance hmem
    rcases (mem_replaceAlliance hagree.ids_nodup).1 hmem with ⟨-, -, -, rfl⟩ | ⟨hmem, -⟩
    · exact hwell
    · exact hagree.wellFormed alliance hmem

omit hplayer in
/-- The members of a stored alliance are those that wear its id. -/
theorem mem_memberIds_iff {stored : MatchAlliance} (hstored : stored ∈ record.alliances) (member : String) :
    member ∈ stored.memberIds ↔ allianceOf record.state member = some stored.allianceId := by
  rw [← hagree.member_iff]
  constructor
  · intro hmember
    exact ⟨stored, hstored, rfl, hmember⟩
  · rintro ⟨alliance, hmem, hid, hmember⟩
    rwa [List.inj_on_of_nodup_map hagree.ids_nodup hmem hstored hid] at hmember

theorem alliancesAgree_join (hfree : player.allianceId = none) {stored : MatchAlliance}
    (hstored : stored ∈ record.alliances) (tick : Nat) :
    AlliancesAgree (storeAlliances record
      (record.alliances.modifyFirstWhere (fun alliance => alliance.allianceId = stored.allianceId)
        fun _ => { stored with members := stored.members ++ [⟨playerId, tick⟩] })
      playerId (some stored.allianceId)) := by
  have hwell := hagree.wellFormed stored hstored
  have houtside : playerId ∉ stored.memberIds := by
    rw [mem_memberIds_iff hagree hstored, allianceOf_self hplayer, hfree]
    simp
  have hids : ({ stored with members := stored.members ++ [⟨playerId, tick⟩] } : MatchAlliance).memberIds =
      stored.memberIds ++ [playerId] := List.map_append
  apply alliancesAgree_replace hagree hplayer hstored
  · rfl
  · refine ⟨by simp, ?_, ?_⟩
    · rw [hids]
      exact List.nodup_append.2 ⟨hwell.members_nodup, List.nodup_singleton playerId, by
        intro member hmember other hother heq
        rw [List.mem_singleton.1 hother] at heq
        exact houtside (heq ▸ hmember)⟩
    · rw [hids]
      exact List.mem_append_left _ hwell.leader_mem
  · intro member
    rw [hids, List.mem_append, List.mem_singleton, mem_memberIds_iff hagree hstored, Function.update_apply]
    by_cases hmember : member = playerId
    · simp [hmember]
    · simp [hmember]
  · intro other hother
    rw [hfree]
    simp [Ne.symm hother]

omit hagree hplayer in
theorem memberIds_departed (stored : MatchAlliance) :
    (departedAlliance stored playerId).memberIds = stored.memberIds.filter (· ≠ playerId) := by
  rw [MatchAlliance.memberIds, MatchAlliance.memberIds, List.filter_map]
  rfl

omit hplayer in
theorem mem_departed_iff {stored : MatchAlliance} (hstored : stored ∈ record.alliances) (playerId member : String) :
    member ∈ (departedAlliance stored playerId).memberIds ↔
      Function.update (allianceOf record.state) playerId none member = some stored.allianceId := by
  rw [memberIds_departed, List.mem_filter, mem_memberIds_iff hagree hstored, Function.update_apply]
  by_cases hmember : member = playerId
  · simp [hmember]
  · simp [hmember]

omit hagree hplayer in
theorem leastId_mem {ids : List String} (hne : ids ≠ []) : leastId ids ∈ ids := by
  unfold leastId
  have hperm := List.perm_insertionSort (· ≤ ·) ids
  cases hsorted : ids.insertionSort (· ≤ ·) with
  | nil =>
      rw [hsorted] at hperm
      exact absurd hperm.symm.eq_nil hne
  | cons least rest =>
      rw [hsorted] at hperm
      exact hperm.subset List.mem_cons_self

omit hagree hplayer in
theorem departed_wellFormed {stored : MatchAlliance} (hwell : AllianceWellFormed stored)
    (hne : (departedAlliance stored playerId).members ≠ []) :
    AllianceWellFormed (departedAlliance stored playerId) where
  members_ne_nil := hne
  members_nodup := by
    rw [memberIds_departed]
    exact hwell.members_nodup.filter _
  leader_mem := by
    by_cases hleader : stored.leaderId = playerId
    · have hnew : (departedAlliance stored playerId).leaderId = leastId (departedAlliance stored playerId).memberIds :=
        if_pos hleader
      rw [hnew]
      apply leastId_mem
      exact fun hnil => hne (List.map_eq_nil_iff.1 hnil)
    · have hkept : (departedAlliance stored playerId).leaderId = stored.leaderId := if_neg hleader
      rw [hkept, memberIds_departed, List.mem_filter]
      exact ⟨hwell.leader_mem, by simpa using hleader⟩

theorem alliancesAgree_depart {stored : MatchAlliance} (hstored : stored ∈ record.alliances)
    (hworn : player.allianceId = some stored.allianceId) (hne : (departedAlliance stored playerId).members ≠ []) :
    AlliancesAgree (storeAlliances record
      (record.alliances.modifyFirstWhere (fun alliance => alliance.allianceId = stored.allianceId)
        fun _ => departedAlliance stored playerId) playerId none) := by
  apply alliancesAgree_replace hagree hplayer hstored
  · rfl
  · exact departed_wellFormed (hagree.wellFormed stored hstored) hne
  · exact mem_departed_iff hagree hstored playerId
  · intro other hother
    rw [hworn]
    simp [Ne.symm hother]

/-- The last member's departure dissolves the alliance. -/
theorem alliancesAgree_dissolve {stored : MatchAlliance} (hstored : stored ∈ record.alliances)
    (hworn : player.allianceId = some stored.allianceId) (hnil : (departedAlliance stored playerId).members = []) :
    AlliancesAgree (storeAlliances record
      (record.alliances.filter fun alliance => alliance.allianceId ≠ stored.allianceId) playerId none) where
  member_iff := by
    intro member allianceId
    rw [allianceOf_storeAlliances hplayer]
    change MemberOf (record.alliances.filter _) member allianceId ↔ _
    rw [memberOf_filter, hagree.member_iff]
    by_cases hid : allianceId = stored.allianceId
    · have hnone := mem_departed_iff hagree hstored playerId member
      rw [MatchAlliance.memberIds, hnil] at hnone
      simpa [hid] using hnone
    · by_cases hmember : member = playerId
      · rw [hmember, allianceOf_self hplayer, hworn]
        simp [Ne.symm hid]
      · simp [hmember, hid]
  ids_nodup := hagree.ids_nodup.sublist (List.filter_sublist.map _)
  wellFormed := fun alliance hmem => hagree.wellFormed alliance (List.mem_filter.1 hmem).1

end Actions

theorem alliancesAgree_alliance {record next : MatchRecord} {matchId playerId : String}
    {action : AllianceActionRequest} {response : Option MatchAlliance}
    (h : applyAllianceAction record matchId action playerId = .ok (next, response)) (hagree : AlliancesAgree record) :
    AlliancesAgree next := by
  unfold applyAllianceAction at h
  split at h
  · cases h
  · rename_i player hplayer
    cases action with
    | create name =>
        simp only [createAlliance] at h
        split at h
        · cases h
        · rename_i hfree
          cases h
          exact alliancesAgree_create hagree hplayer hfree (nextAllianceId_not_mem record.alliances) rfl rfl
    | join allianceId =>
        simp only [joinAlliance] at h
        split at h
        · cases h
        · rename_i hfree
          split at h
          · cases h
          · rename_i stored hfound
            cases h
            obtain ⟨hstored, rfl⟩ := findAlliance_eq_some hfound
            exact alliancesAgree_join hagree hplayer hfree hstored _
    | leave =>
        simp only [leaveAlliance] at h
        split at h
        · cases h
        · rename_i allianceId hworn
          split at h
          · cases h
          · rename_i stored hfound
            obtain ⟨hstored, rfl⟩ := findAlliance_eq_some hfound
            split at h
            · rename_i hnil
              cases h
              exact alliancesAgree_dissolve hagree hplayer hstored hworn hnil
            · rename_i hne
              cases h
              exact alliancesAgree_depart hagree hplayer hstored hworn hne

/-! ### Derived alliances -/

/-- Who wears an alliance id, in the order of the players. -/
def wearers (state : MatchState) (allianceId : String) : List String :=
  ((state.players.entries.filterMap fun entry =>
    entry.2.allianceId.map fun worn => (worn, entry.1)).filter fun pair => pair.1 = allianceId).map Prod.snd

def derivedAlliance (state : MatchState) (allianceId : String) : MatchAlliance :=
  let memberIds := (wearers state allianceId).insertionSort (· ≤ ·)
  { allianceId := allianceId
    name := allianceId
    leaderId := memberIds.headD ""
    formedTick := state.tick
    members := memberIds.map fun memberId => ⟨memberId, state.tick⟩ }

theorem mem_wearers {state : MatchState} {allianceId playerId : String} :
    playerId ∈ wearers state allianceId ↔ allianceOf state playerId = some allianceId := by
  rw [allianceOf, Option.bind_eq_some_iff]
  unfold wearers
  constructor
  · intro h
    obtain ⟨⟨worn, player⟩, hpair, rfl⟩ := List.mem_map.1 h
    obtain ⟨hpair, hworn⟩ := List.mem_filter.1 hpair
    obtain ⟨entry, hentry, heq⟩ := List.mem_filterMap.1 hpair
    obtain ⟨id, hid, heq⟩ := Option.map_eq_some_iff.1 heq
    cases heq
    exact ⟨entry.2, OrdDict.get?_eq_some.2 hentry, hid.trans (congrArg some (of_decide_eq_true hworn))⟩
  · rintro ⟨player, hplayer, hworn⟩
    refine List.mem_map.2 ⟨(allianceId, playerId), List.mem_filter.2 ⟨?_, by simp⟩, rfl⟩
    exact List.mem_filterMap.2 ⟨(playerId, player), OrdDict.get?_eq_some.1 hplayer, by rw [hworn]; rfl⟩

theorem wearers_nodup (state : MatchState) (allianceId : String) : (wearers state allianceId).Nodup := by
  have hsub : (wearers state allianceId).Sublist state.players.keys := by
    have hpairs : ((state.players.entries.filterMap fun entry =>
        entry.2.allianceId.map fun worn => (worn, entry.1)).map Prod.snd).Sublist state.players.keys := by
      unfold OrdDict.keys
      induction state.players.entries with
      | nil => exact List.Sublist.slnil
      | cons entry entries ih =>
          rw [List.filterMap_cons, List.map_cons]
          cases entry.2.allianceId with
          | none => exact ih.cons _
          | some allianceId => exact ih.cons_cons _
    exact (List.filter_sublist.map _).trans hpairs
  exact hsub.nodup state.players.keys_nodup

/-- One alliance is derived for each id that somebody wears. -/
theorem mem_deriveAlliancesFromState {state : MatchState} {alliance : MatchAlliance} :
    alliance ∈ deriveAlliancesFromState state ↔
      ∃ allianceId, wearers state allianceId ≠ [] ∧ alliance = derivedAlliance state allianceId := by
  unfold deriveAlliancesFromState
  dsimp only
  rw [List.mem_map]
  constructor
  · rintro ⟨⟨allianceId, group⟩, hentry, rfl⟩
    rw [List.mem_insertionSort, ← OrdDict.get?_eq_some, OrdDict.get?_group] at hentry
    split at hentry
    · cases hentry
    · rename_i hworn
      cases hentry
      exact ⟨allianceId, fun hnil => hworn (List.map_eq_nil_iff.1 hnil), rfl⟩
  · rintro ⟨allianceId, hworn, rfl⟩
    refine ⟨(allianceId, wearers state allianceId), ?_, rfl⟩
    rw [List.mem_insertionSort, ← OrdDict.get?_eq_some, OrdDict.get?_group, if_neg]
    · rfl
    · intro hnil
      apply hworn
      unfold wearers
      rw [hnil]
      rfl

theorem memberIds_derivedAlliance (state : MatchState) (allianceId : String) :
    (derivedAlliance state allianceId).memberIds = (wearers state allianceId).insertionSort (· ≤ ·) := by
  unfold MatchAlliance.memberIds derivedAlliance
  rw [List.map_map]
  exact List.map_id _

theorem mem_memberIds_derivedAlliance {state : MatchState} {allianceId playerId : String} :
    playerId ∈ (derivedAlliance state allianceId).memberIds ↔ allianceOf state playerId = some allianceId := by
  rw [memberIds_derivedAlliance, List.mem_insertionSort, mem_wearers]

theorem derived_ids_nodup (state : MatchState) : ((deriveAlliancesFromState state).map (·.allianceId)).Nodup := by
  unfold deriveAlliancesFromState
  dsimp only
  rw [List.map_map]
  exact ((List.perm_insertionSort _ _).map Prod.fst).nodup_iff.2 (OrdDict.keys_nodup _)

theorem derived_wellFormed {state : MatchState} {allianceId : String} (hworn : wearers state allianceId ≠ []) :
    AllianceWellFormed (derivedAlliance state allianceId) where
  members_ne_nil := by
    intro hnil
    have hids := memberIds_derivedAlliance state allianceId
    rw [MatchAlliance.memberIds, hnil] at hids
    have hperm := List.perm_insertionSort (· ≤ ·) (wearers state allianceId)
    rw [← hids] at hperm
    exact hworn hperm.symm.eq_nil
  members_nodup := by
    rw [memberIds_derivedAlliance]
    exact (List.perm_insertionSort _ _).nodup_iff.2 (wearers_nodup state allianceId)
  leader_mem := by
    rw [memberIds_derivedAlliance, List.mem_insertionSort]
    exact leastId_mem hworn

/-- A record whose alliances are derived from its state agrees with it. -/
theorem alliancesAgree_derived {record : MatchRecord} (h : record.alliances = deriveAlliancesFromState record.state) :
    AlliancesAgree record where
  member_iff := by
    intro playerId allianceId
    rw [h]
    constructor
    · rintro ⟨alliance, hmem, rfl, hplayer⟩
      obtain ⟨allianceId, -, rfl⟩ := mem_deriveAlliancesFromState.1 hmem
      exact mem_memberIds_derivedAlliance.1 hplayer
    · intro hworn
      refine ⟨derivedAlliance record.state allianceId, ?_, rfl, mem_memberIds_derivedAlliance.2 hworn⟩
      exact mem_deriveAlliancesFromState.2 ⟨allianceId, List.ne_nil_of_mem (mem_wearers.2 hworn), rfl⟩
  ids_nodup := h ▸ derived_ids_nodup record.state
  wellFormed := by
    intro alliance hmem
    rw [h] at hmem
    obtain ⟨allianceId, hworn, rfl⟩ := mem_deriveAlliancesFromState.1 hmem
    exact derived_wellFormed hworn

/-- Where no alliance is stored nobody wears one, and none is derived. -/
theorem AlliancesAgree.derived_eq_nil {record : MatchRecord} (hagree : AlliancesAgree record)
    (hnil : record.alliances = []) : deriveAlliancesFromState record.state = [] := by
  apply List.eq_nil_iff_forall_not_mem.2
  intro alliance hmem
  obtain ⟨allianceId, hworn, -⟩ := mem_deriveAlliancesFromState.1 hmem
  obtain ⟨playerId, hplayer⟩ := List.exists_mem_of_ne_nil _ hworn
  obtain ⟨stored, hstored, -⟩ := (hagree.member_iff playerId allianceId).2 (mem_wearers.1 hplayer)
  rw [hnil] at hstored
  cases hstored

/-! ### Ticks, seedings and whole runs -/

theorem AlliancesAgree.of_frame {record next : MatchRecord} (hagree : AlliancesAgree record)
    (halliances : next.alliances = record.alliances) (hmembers : next.state.memberships = record.state.memberships) :
    AlliancesAgree next where
  member_iff := by
    rw [halliances, allianceOf_of_memberships hmembers]
    exact hagree.member_iff
  ids_nodup := halliances ▸ hagree.ids_nodup
  wellFormed := halliances ▸ hagree.wellFormed

theorem advanceMatchTick_memberships (record : MatchRecord) :
    (advanceMatchTick record).1.state.memberships = record.state.memberships := by
  cases h : settledBoard record with
  | error error => rw [(advanceMatchTick_of_error h).1]
  | ok settled =>
      rw [(advanceMatchTick_of_settled h).1]
      exact congrArg (fun frame => frame.2.2) (tickFrame_resolveThroughDiplomacy h)

theorem alliancesAgree_tick {record : MatchRecord} (hagree : AlliancesAgree record) :
    AlliancesAgree (advanceMatchTick record).1 :=
  hagree.of_frame (advanceMatchTick_alliances record) (advanceMatchTick_memberships record)

theorem alliancesAgree_seed {record : MatchRecord} (hagree : AlliancesAgree record) :
    AlliancesAgree (InMemoryMatchRegistry.storedRecord record) := by
  have hstored : (InMemoryMatchRegistry.storedRecord record).alliances = record.alliances := by
    dsimp only [InMemoryMatchRegistry.storedRecord]
    split
    · rename_i hnil
      rw [hnil, hagree.derived_eq_nil hnil]
    · rfl
  exact hagree.of_frame hstored rfl

theorem alliancesAgree_part {allowed : TreatyActionRequest → Prop} {playerId : String} {record next : MatchRecord}
    (h : CommandPart allowed playerId record next) (hagree : AlliancesAgree record) : AlliancesAgree next := by
  cases h with
  | submitted envelope => exact hagree.of_frame rfl rfl
  | posted messages groupChats => exact hagree.of_frame rfl rfl
  | treaty hallowed haction =>
      obtain ⟨treaties, messages, rfl⟩ := applyTreatyAction_frame haction
      exact hagree.of_frame rfl rfl
  | alliance haction => exact alliancesAgree_alliance haction hagree

/-- The stored alliances and the players' alliance ids agree in every record of a run of commands, ticks and seedings. -/
theorem alliancesAgree_run (record : MatchRecord) (events : List RecordEvent) (hagree : AlliancesAgree record) :
    ∀ reached ∈ Run.states recordStep record events, AlliancesAgree reached :=
  keeps_run (fun _ _ _ => alliancesAgree_part) (fun _ => alliancesAgree_tick) (fun _ => alliancesAgree_seed) hagree
    events

/-! ### A duel -/

theorem alliancesAgree_duel : AlliancesAgree duelRecord where
  member_iff := by
    intro playerId allianceId
    rw [allianceOf_eq_some]
    have hworn : (playerId, some allianceId) ∉ [("p1", none), ("p2", (none : Option String))] := by simp
    constructor
    · rintro ⟨alliance, hmem, -⟩
      cases hmem
    · intro hmem
      exact absurd hmem hworn
  ids_nodup := List.nodup_nil
  wellFormed := by
    intro alliance hmem
    cases hmem

/-- The founder leaves and the alliance goes to the member that joined it. -/
def handover : List RecordEvent :=
  [.command "p1" (.alliance (.create "north")), .command "p2" (.alliance (.join "alliance-1")),
    .command "p2" (.alliance (.create "south")), .tick, .command "p1" (.alliance .leave), .seed]

theorem alliancesAgree_run_duel : AlliancesAgree (handover.foldl recordStep duelRecord) :=
  alliancesAgree_run duelRecord handover alliancesAgree_duel _ (Run.foldl_mem_states _ _)

example : (handover.foldl recordStep duelRecord).alliances =
    [⟨"alliance-1", "north", "p2", 0, [⟨"p2", 0⟩]⟩] := by decide +kernel

end IronCouncil
