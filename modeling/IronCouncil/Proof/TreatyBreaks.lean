import IronCouncil.Proof.Hostilities

/-!
# What a tick does to the treaties

A tick breaks an active treaty exactly when an accepted movement sends an army of one party to a city that the other party holds before the tick. It leaves the other treaties and the earlier messages as they are, and appends one announcement for each treaty it breaks.
-/

namespace IronCouncil

/-- The next tick sends an army of the attacker to a city that the defender holds. -/
def Attacks (record : MatchRecord) (attackerId defenderId : String) : Prop :=
  ∃ armyId cityId, Sends record armyId attackerId cityId ∧ Holds record.state defenderId cityId

/-- The treaty is active and one party attacks the other. -/
def Betrayed (record : MatchRecord) (treaty : MatchTreaty) : Prop :=
  treaty.status = .active ∧
    (Attacks record treaty.playerAId treaty.playerBId ∨ Attacks record treaty.playerBId treaty.playerAId)

/-- A treaty before and after a tick. -/
structure TreatyTick (record : MatchRecord) (before after : MatchTreaty) : Prop where
  changed_iff : after.status ≠ before.status ↔ Betrayed record before
  kept : after.status = before.status → after = before
  blamed : after.status ≠ before.status → ∃ attackerId defenderId,
    (attackerId, defenderId) ∈ [(before.playerAId, before.playerBId), (before.playerBId, before.playerAId)] ∧
      Attacks record attackerId defenderId ∧ after = before.breakBy attackerId record.state.tick

/-- Who broke the treaty, and whom they attacked. -/
def MatchTreaty.breakers (treaty : MatchTreaty) : String × String :=
  if treaty.status = .brokenByA then (treaty.playerAId, treaty.playerBId) else (treaty.playerBId, treaty.playerAId)

/-- The announcements of the treaties whose status has changed. -/
def breakAnnouncements (breakTick : Nat) (before after : List MatchTreaty) : List MatchMessage :=
  ((before.zip after).filter fun pair => pair.2.status ≠ pair.1.status).map
    fun pair => breakAnnouncement breakTick pair.2.breakers pair.1

/-- Messages stored behind the earlier ones, each under the next number. -/
def StoredBehind (before after : List MatchMessage) : Prop :=
  ∃ stored, after = before ++ stored ∧
    ∀ (k : Nat) (message : MatchMessage), stored[k]? = some message → message.messageId = before.length + k

/-! ### Attacks of the accepted movements -/

theorem attacks_iff {record : MatchRecord} {attackerId defenderId : String} (hne : attackerId ≠ defenderId) :
    Attacks record attackerId defenderId ↔ (attackerId, defenderId) ∈ attacksOf record.state (pendingOrders record) := by
  constructor
  · intro hattacks
    obtain ⟨armyId, cityId, hsends, hholds⟩ := hattacks
    exact mem_attacksOf hne hsends hholds
  · intro hmem
    obtain ⟨order, horder, hpair⟩ := List.mem_flatMap.1 hmem
    unfold hostilePairs at hpair
    split at hpair
    · rename_i army city harmy hcity
      obtain ⟨defender, hdefender, heq⟩ := List.mem_map.1 hpair
      obtain ⟨rfl, rfl⟩ := Prod.mk.inj heq
      refine ⟨order.armyId, order.destination, ⟨horder, army, harmy, rfl⟩, ?_⟩
      unfold defenderIds at hdefender
      rw [List.mem_insertionSort, List.mem_filter, List.mem_dedup, List.mem_append] at hdefender
      rcases hdefender.1 with hoccupies | howner
      · exact Or.inr hoccupies
      · exact Or.inl (MatchState.cityOwner_eq_some.2 ⟨city, hcity, by simpa using howner⟩)
    · exact absurd hpair List.not_mem_nil

theorem sortedPair_eq_iff {first second : String} {parties : String × String} (hle : parties.1 ≤ parties.2) :
    sortedPair first second = parties ↔ (first, second) = parties ∨ (first, second) = (parties.2, parties.1) := by
  obtain ⟨playerAId, playerBId⟩ := parties
  dsimp only at hle
  unfold sortedPair
  split
  · rename_i hsorted
    constructor
    · exact Or.inl
    · intro h
      rcases h with h | h
      · exact h
      · obtain ⟨rfl, rfl⟩ := Prod.mk.inj h
        rw [le_antisymm hsorted hle]
  · rename_i hsorted
    constructor
    · intro h
      obtain ⟨rfl, rfl⟩ := Prod.mk.inj h
      exact Or.inr rfl
    · intro h
      rcases h with h | h
      · obtain ⟨rfl, rfl⟩ := Prod.mk.inj h
        exact absurd hle hsorted
      · obtain ⟨rfl, rfl⟩ := Prod.mk.inj h
        rfl

/-- The attacks that violate a treaty are those of one of its parties on the other. -/
theorem violates_iff {attack : String × String} {treaty : MatchTreaty} (hle : treaty.playerAId ≤ treaty.playerBId) :
    violates attack treaty = true ↔ treaty.status = .active ∧
      attack ∈ [(treaty.playerAId, treaty.playerBId), (treaty.playerBId, treaty.playerAId)] := by
  have hpair : sortedPair attack.1 attack.2 = (treaty.playerAId, treaty.playerBId) ↔ _ := sortedPair_eq_iff hle
  rw [List.mem_pair, ← hpair]
  simp only [violates, MatchTreaty.isActiveBetween, decide_eq_true_eq]
  constructor
  · intro h
    exact ⟨h.2.2, Prod.ext h.1.symm h.2.1.symm⟩
  · intro h
    exact ⟨(congrArg Prod.fst h.2).symm, (congrArg Prod.snd h.2).symm, h.1⟩

theorem betrayed_iff (record : MatchRecord) {treaty : MatchTreaty} (hlt : treaty.playerAId < treaty.playerBId) :
    Betrayed record treaty ↔
      ∃ attack ∈ attacksOf record.state (pendingOrders record), violates attack treaty = true := by
  unfold Betrayed
  rw [attacks_iff hlt.ne, attacks_iff hlt.ne']
  simp only [violates_iff hlt.le, List.mem_pair]
  constructor
  · intro h
    rcases h.2 with hattack | hattack
    · exact ⟨_, hattack, h.1, Or.inl rfl⟩
    · exact ⟨_, hattack, h.1, Or.inr rfl⟩
  · intro h
    obtain ⟨attack, hattack, hactive, rfl | rfl⟩ := h
    · exact ⟨hactive, Or.inl hattack⟩
    · exact ⟨hactive, Or.inr hattack⟩

theorem breakBy_status_ne {treaty : MatchTreaty} (hactive : treaty.status = .active) (attackerId : String) (now : Nat) :
    (treaty.breakBy attackerId now).status ≠ treaty.status := by
  rw [hactive]
  unfold MatchTreaty.breakBy
  dsimp only
  split <;> simp

theorem treatyTick_fate {record : MatchRecord} {treaty : MatchTreaty} (hlt : treaty.playerAId < treaty.playerBId) :
    TreatyTick record treaty (treatyFate record.state (attacksOf record.state (pendingOrders record)) treaty) := by
  have hbetrayed := betrayed_iff record hlt
  unfold treatyFate Latch.fate
  cases hfirst : Latch.firstHit violates (attacksOf record.state (pendingOrders record)) treaty with
  | none =>
      have hmissed := List.find?_eq_none.1 hfirst
      have hspared : ¬ Betrayed record treaty := by
        intro h
        obtain ⟨attack, hattack, hviolates⟩ := hbetrayed.1 h
        exact hmissed attack hattack hviolates
      exact ⟨by simp [hspared], fun _ => rfl, fun h => absurd rfl h⟩
  | some attack =>
      have hviolates : violates attack treaty = true := by simpa using List.find?_some hfirst
      have hattack := List.mem_of_find?_eq_some hfirst
      obtain ⟨hactive, hpair⟩ := (violates_iff hlt.le).1 hviolates
      have hne : attack.1 ≠ attack.2 := by
        rcases List.mem_pair.1 hpair with rfl | rfl
        · exact hlt.ne
        · exact hlt.ne'
      dsimp only
      rw [breakTreaty_eq_breakBy record.state.tick hviolates]
      have hchanged := breakBy_status_ne hactive attack.1 record.state.tick
      refine ⟨?_, fun h => absurd h hchanged, fun _ => ⟨attack.1, attack.2, hpair, (attacks_iff hne).2 hattack, rfl⟩⟩
      exact ⟨fun _ => hbetrayed.2 ⟨attack, hattack, hviolates⟩, fun _ => hchanged⟩

/-! ### Announcements -/

theorem StoredBehind.refl (messages : List MatchMessage) : StoredBehind messages messages :=
  ⟨[], (List.append_nil _).symm, by simp⟩

theorem StoredBehind.trans {first second third : List MatchMessage} (h : StoredBehind first second)
    (h' : StoredBehind second third) : StoredBehind first third := by
  obtain ⟨stored, rfl, hnumbered⟩ := h
  obtain ⟨stored', rfl, hnumbered'⟩ := h'
  refine ⟨stored ++ stored', List.append_assoc _ _ _, ?_⟩
  intro k message hmessage
  by_cases hk : k < stored.length
  · rw [List.getElem?_append_left hk] at hmessage
    exact hnumbered k message hmessage
  · rw [List.getElem?_append_right (by omega)] at hmessage
    have hnumber := hnumbered' _ message hmessage
    rw [List.length_append] at hnumber
    omega

theorem storedBehind_recordWorldMessage (record : MatchRecord) (tick : Nat) (content : String) :
    StoredBehind record.messages (recordWorldMessage record tick content).messages := by
  refine ⟨_, rfl, ?_⟩
  intro k message hmessage
  obtain ⟨rfl, rfl⟩ : k = 0 ∧ _ = message := by
    cases k with
    | zero => exact ⟨rfl, Option.some.inj hmessage⟩
    | succ k => simp at hmessage
  rfl

theorem storedBehind_breakActiveTreaties (breakTick : Nat) (record : MatchRecord) (attack : String × String) :
    StoredBehind record.messages (breakActiveTreatiesBetweenPlayers breakTick record attack).messages := by
  unfold breakActiveTreatiesBetweenPlayers
  dsimp only
  generalize record.treaties.filter _ = broken
  generalize hstart : ({ record with treaties := _ } : MatchRecord) = start
  have hmessages : record.messages = start.messages := by rw [← hstart]
  rw [hmessages]
  clear hstart hmessages
  induction broken generalizing start with
  | nil => exact StoredBehind.refl _
  | cons treaty broken ih => exact (storedBehind_recordWorldMessage start _ _).trans (ih _)

theorem storedBehind_reconcile (record : MatchRecord) (state : MatchState) (orders : OrderBatch) :
    StoredBehind record.messages (reconcileHostileTreatyBreaks record state orders).messages := by
  unfold reconcileHostileTreatyBreaks
  generalize orders.movements.flatMap (hostilePairs state) = attacks
  induction attacks generalizing record with
  | nil => exact StoredBehind.refl _
  | cons attack attacks ih => exact (storedBehind_breakActiveTreaties _ record attack).trans (ih _)

theorem storedBehind_advanceMatchTick (record : MatchRecord) :
    StoredBehind record.messages (advanceMatchTick record).1.messages := by
  have hreconcile := storedBehind_reconcile (drainQueue record) record.state (pendingOrders record)
  unfold advanceMatchTick
  dsimp only
  split <;> exact hreconcile

theorem breakers_breakBy {treaty : MatchTreaty} {attack : String × String} (hlt : treaty.playerAId < treaty.playerBId)
    (hpair : attack ∈ [(treaty.playerAId, treaty.playerBId), (treaty.playerBId, treaty.playerAId)]) (now : Nat) :
    (treaty.breakBy attack.1 now).breakers = attack := by
  rcases List.mem_pair.1 hpair with rfl | rfl
  · simp [MatchTreaty.breakers, MatchTreaty.breakBy]
  · simp [MatchTreaty.breakers, MatchTreaty.breakBy, hlt.ne']

/-- The announcements of the broken treaties are those that the treaties themselves tell. -/
theorem announced_eq_breakAnnouncements {record : MatchRecord} {treaties : List MatchTreaty}
    (hlt : ∀ treaty ∈ treaties, treaty.playerAId < treaty.playerBId) (attacks : List (String × String)) :
    Latch.announced violates (breakAnnouncement record.state.tick) attacks treaties =
      breakAnnouncements record.state.tick treaties (treaties.map (treatyFate record.state attacks)) := by
  induction treaties with
  | nil => rfl
  | cons treaty treaties ih =>
      have hrest := ih fun treaty' htreaty => hlt treaty' (List.mem_cons_of_mem _ htreaty)
      have hparties := hlt treaty List.mem_cons_self
      unfold Latch.announced breakAnnouncements at hrest ⊢
      rw [List.map_cons, List.zip_cons_cons, List.filter_cons, List.filterMap_cons, hrest]
      dsimp only
      cases hfirst : Latch.firstHit violates attacks treaty with
      | none =>
          have hkept : treatyFate record.state attacks treaty = treaty := by
            unfold treatyFate Latch.fate
            rw [hfirst]
          rw [hkept, if_neg (by simp)]
          rfl
      | some attack =>
          have hviolates : violates attack treaty = true := by simpa using List.find?_some hfirst
          obtain ⟨hactive, hpair⟩ := (violates_iff hparties.le).1 hviolates
          have hbroken : treatyFate record.state attacks treaty = treaty.breakBy attack.1 record.state.tick := by
            unfold treatyFate Latch.fate
            rw [hfirst]
            exact breakTreaty_eq_breakBy record.state.tick hviolates
          have hchanged := breakBy_status_ne hactive attack.1 record.state.tick
          rw [hbroken, if_pos (decide_eq_true hchanged), List.map_cons, breakers_breakBy hparties hpair]
          rfl

/-- What a tick does to the treaties and the messages of a match: it breaks the betrayed treaties, and announces each of them. -/
theorem advanceMatchTick_breaks (record : MatchRecord) (hregular : TreatiesRegular record.state.tick record.treaties) :
    List.Forall₂ (TreatyTick record) record.treaties (advanceMatchTick record).1.treaties ∧
      StoredBehind record.messages (advanceMatchTick record).1.messages ∧
      (((advanceMatchTick record).1.messages.drop record.messages.length).map MatchMessage.unnumbered).Perm
        (breakAnnouncements record.state.tick record.treaties (advanceMatchTick record).1.treaties) := by
  have hlt : ∀ treaty ∈ record.treaties, treaty.playerAId < treaty.playerBId :=
    fun treaty htreaty => (hregular.life treaty htreaty).parties_lt
  have htreaties : (advanceMatchTick record).1.treaties = _ := advanceMatchTick_treaties record record.orderSubmissions
  have hmessages : ((advanceMatchTick record).1.messages.map MatchMessage.unnumbered).Perm _ :=
    advanceMatchTick_messages record record.orderSubmissions
  refine ⟨?_, storedBehind_advanceMatchTick record, ?_⟩
  · rw [htreaties, List.forall₂_map_right_iff, List.forall₂_same]
    exact fun treaty htreaty => treatyTick_fate (hlt treaty htreaty)
  · obtain ⟨stored, hstored, -⟩ := storedBehind_advanceMatchTick record
    rw [hstored, List.map_append, List.perm_append_left_iff, announced_eq_breakAnnouncements hlt, ← htreaties] at hmessages
    rw [hstored, List.drop_left]
    exact hmessages

theorem treatiesRegular_pact : TreatiesRegular pactRecord.state.tick pactRecord.treaties where
  life := by
    intro treaty htreaty
    obtain rfl := List.mem_singleton.1 htreaty
    have hparties : sortedPair "p1" "p2" = ("p1", "p2") := by decide
    have hlt : (sortedPair "p1" "p2").1 < (sortedPair "p1" "p2").2 := sortedPair_lt (by decide)
    rw [hparties] at hlt
    constructor <;> simp [hlt, MatchTreaty.IsParty, MatchTreaty.Open]
  id_index := by
    intro k treaty htreaty
    cases k with
    | zero =>
        obtain rfl := Option.some.inj htreaty
        rfl
    | succ k => cases htreaty
  open_latest := List.pairwise_singleton _ _

/-- The pact of the duel, broken by a march on the other player's city. -/
theorem advanceMatchTick_breaks_pact :
    let record := withSubmissions pactRecord [duelMarch "p1" "a1" "southampton"]
    List.Forall₂ (TreatyTick record) record.treaties (advanceMatchTick record).1.treaties ∧
      StoredBehind record.messages (advanceMatchTick record).1.messages ∧
      (((advanceMatchTick record).1.messages.drop record.messages.length).map MatchMessage.unnumbered).Perm
        (breakAnnouncements record.state.tick record.treaties (advanceMatchTick record).1.treaties) := by
  exact advanceMatchTick_breaks _ treatiesRegular_pact

end IronCouncil
