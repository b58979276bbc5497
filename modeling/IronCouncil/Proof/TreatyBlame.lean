import IronCouncil.Base.Latch
import IronCouncil.Proof.SubmissionOrder

/-!
# The blame for a broken treaty

Every accepted movement into a city that someone else owns or occupies is an attack, and the first attack between the parties of an active treaty breaks it and takes the blame. Where only one party attacks, every order of submissions blames it. Where both attack, whoever submitted first is blamed.
-/

namespace IronCouncil

/-! ### Attacks -/

def attacksOf (state : MatchState) (orders : OrderBatch) : List (String × String) :=
  orders.movements.flatMap (hostilePairs state)

/-- An attack that breaks the treaty if it is active. -/
def violates (attack : String × String) (treaty : MatchTreaty) : Bool :=
  treaty.isActiveBetween (sortedPair attack.1 attack.2)

def breakAnnouncement (breakTick : Nat) (attack : String × String) (treaty : MatchTreaty) : MatchMessage where
  messageId := 0
  channel := .world
  senderId := "system"
  recipientId := none
  tick := breakTick
  content := treatyBrokenText attack.1 attack.2 treaty

def blameView (record : MatchRecord) : List MatchTreaty × List MatchMessage :=
  (record.treaties, record.messages.map MatchMessage.unnumbered)

theorem blameView_breakActiveTreaties (breakTick : Nat) (record : MatchRecord) (attack : String × String) :
    blameView (breakActiveTreatiesBetweenPlayers breakTick record attack) =
      Latch.step violates (fun attack => breakTreaty attack.1 attack.2 breakTick) (breakAnnouncement breakTick)
        (blameView record) attack := by
  have hmessages : ∀ (broken : List MatchTreaty) (start : MatchRecord),
      blameView (broken.foldl (fun record treaty =>
          recordWorldMessage record breakTick (treatyBrokenText attack.1 attack.2 treaty)) start) =
        (start.treaties, start.messages.map MatchMessage.unnumbered ++ broken.map (breakAnnouncement breakTick attack)) := by
    intro broken
    induction broken with
    | nil =>
        intro start
        simp [blameView]
    | cons treaty broken ih =>
        intro start
        rw [List.foldl_cons, ih]
        simp [recordWorldMessage, appendMessage, MatchMessage.unnumbered, breakAnnouncement]
  unfold breakActiveTreatiesBetweenPlayers
  exact hmessages _ _

theorem blameView_reconcile (record : MatchRecord) (state : MatchState) (orders : OrderBatch) :
    blameView (reconcileHostileTreatyBreaks record state orders) =
      (attacksOf state orders).foldl
        (Latch.step violates (fun attack => breakTreaty attack.1 attack.2 state.tick) (breakAnnouncement state.tick))
        (blameView record) :=
  (List.foldl_hom blameView fun record attack => (blameView_breakActiveTreaties state.tick record attack).symm).symm

/-- What becomes of a treaty under a list of attacks. -/
def treatyFate (state : MatchState) (attacks : List (String × String)) (treaty : MatchTreaty) : MatchTreaty :=
  Latch.fate violates (fun attack => breakTreaty attack.1 attack.2 state.tick) attacks treaty

theorem reconcile_treaties (record : MatchRecord) (state : MatchState) (orders : OrderBatch) :
    (reconcileHostileTreatyBreaks record state orders).treaties =
      record.treaties.map (treatyFate state (attacksOf state orders)) := by
  have hview := congrArg Prod.fst (blameView_reconcile record state orders)
  rw [Latch.items_foldl] at hview
  · exact hview
  · exact fun attack attack' treaty => breakTreaty_not_active attack.1 attack.2 state.tick treaty _

theorem reconcile_messages (record : MatchRecord) (state : MatchState) (orders : OrderBatch) :
    ((reconcileHostileTreatyBreaks record state orders).messages.map MatchMessage.unnumbered).Perm
      (record.messages.map MatchMessage.unnumbered ++
        Latch.announced violates (breakAnnouncement state.tick) (attacksOf state orders) record.treaties) := by
  have hview : (reconcileHostileTreatyBreaks record state orders).messages.map MatchMessage.unnumbered = _ :=
    congrArg Prod.snd (blameView_reconcile record state orders)
  rw [hview]
  exact Latch.log_foldl (fun attack attack' treaty => breakTreaty_not_active attack.1 attack.2 state.tick treaty _)
    (attacksOf state orders) (blameView record)

/-! ### Who attacks -/

/-- The attacks of one player's merged envelope. -/
def groupAttacks (state : MatchState) (submission : OrderEnvelope) : List (String × String) :=
  attacksOf state (acceptedOrders state submission)

theorem attacksOf_validateQueuedOrders (state : MatchState) (submissions : List OrderEnvelope) :
    attacksOf state (validateQueuedOrders state submissions) =
      (combineSubmissionsByPlayer submissions).flatMap (groupAttacks state) := by
  unfold attacksOf
  rw [validateQueuedOrders_movements, List.flatMap_assoc]
  rfl

theorem groupAttacks_attacker {state : MatchState} {submission : OrderEnvelope} {attack : String × String}
    (hmem : attack ∈ groupAttacks state submission) : attack.1 = submission.playerId := by
  obtain ⟨order, horder, hattack⟩ := List.mem_flatMap.1 hmem
  obtain ⟨army, location, harmy, -, howner, -⟩ := accepted_movement horder
  unfold hostilePairs at hattack
  rw [harmy] at hattack
  cases hcity : state.cities.get? order.destination with
  | none =>
      rw [hcity] at hattack
      exact absurd hattack List.not_mem_nil
  | some city =>
      rw [hcity] at hattack
      obtain ⟨defender, -, rfl⟩ := List.mem_map.1 hattack
      exact howner

theorem sortedPair_right_cancel {attacker defender defender' : String}
    (h : sortedPair attacker defender = sortedPair attacker defender') : defender = defender' := by
  unfold sortedPair at h
  split at h <;> split at h <;> simp only [Prod.mk.injEq] at h
  · exact h.2
  · exact h.2.trans h.1
  · exact h.1.trans h.2
  · exact h.1

/-- The attackers of one treaty tell its attacks apart. -/
theorem violates_eq {attack attack' : String × String} {treaty : MatchTreaty} (h : violates attack treaty = true)
    (h' : violates attack' treaty = true) (hattacker : attack.1 = attack'.1) : attack = attack' := by
  obtain ⟨attacker, defender⟩ := attack
  obtain ⟨attacker', defender'⟩ := attack'
  obtain rfl : attacker = attacker' := hattacker
  simp only [violates, MatchTreaty.isActiveBetween, decide_eq_true_eq] at h h'
  have hpair : sortedPair attacker defender = sortedPair attacker defender' :=
    Prod.ext (h.1.symm.trans h'.1) (h.2.1.symm.trans h'.2.1)
  rw [sortedPair_right_cancel hpair]

/-! ### Letting one player go first -/

theorem mem_of_mem_combineSubmissions {submissions : List OrderEnvelope} {merged : OrderEnvelope}
    (hmem : merged ∈ combineSubmissionsByPlayer submissions) :
    ∃ submission ∈ submissions, submission.playerId = merged.playerId := by
  obtain ⟨key, hkey⟩ := OrdDict.mem_values.1 hmem
  have hplayer := merged_playerId submissions hkey
  by_contra hnone
  have hfilter : (submissions.filter fun submission => submission.playerId = key) = [] := by
    rw [List.filter_eq_nil_iff]
    intro submission hsubmission heq
    exact hnone ⟨submission, hsubmission, (of_decide_eq_true heq).trans hplayer.symm⟩
  have hget := OrdDict.get?_foldl_upsert (·.playerId) id
    (fun submission merged => { merged with orders := merged.orders.append submission.orders })
    submissions OrdDict.empty key
  rw [hfilter] at hget
  change (submissions.foldl mergeSubmission OrdDict.empty).get? key = none at hget
  rw [hkey] at hget
  cases hget

/-- The first submission's player comes first after merging. -/
theorem combineSubmissionsByPlayer_cons (submission : OrderEnvelope) (submissions : List OrderEnvelope) :
    ∃ merged rest, combineSubmissionsByPlayer (submission :: submissions) = merged :: rest ∧
      merged.playerId = submission.playerId := by
  have hprefix := OrdDict.keys_foldl_upsert_prefix (·.playerId) id
    (fun submission merged => { merged with orders := merged.orders.append submission.orders })
    submissions (mergeSubmission OrdDict.empty submission)
  change _ <+: ((submission :: submissions).foldl mergeSubmission OrdDict.empty).keys at hprefix
  have hfirst : (mergeSubmission OrdDict.empty submission).keys = [submission.playerId] := by
    rw [mergeSubmission, OrdDict.keys_upsert]
    simp
  rw [hfirst] at hprefix
  have hplayers : ∀ key merged, ((submission :: submissions).foldl mergeSubmission OrdDict.empty).get? key = some merged →
      merged.playerId = key := fun _ _ => merged_playerId (submission :: submissions)
  unfold combineSubmissionsByPlayer
  generalize (submission :: submissions).foldl mergeSubmission OrdDict.empty = combined at hprefix hplayers
  obtain ⟨rest, hrest⟩ := hprefix
  unfold OrdDict.keys at hrest
  unfold OrdDict.values
  cases hentries : combined.entries with
  | nil =>
      rw [hentries] at hrest
      cases hrest
  | cons entry entries =>
      rw [hentries] at hrest
      have hkey : entry.1 = submission.playerId := by
        simpa using (congrArg List.head? hrest).symm
      have hplayer := hplayers entry.1 entry.2 (OrdDict.get?_eq_some.2 (by simp [hentries]))
      exact ⟨entry.2, entries.map Prod.snd, by simp, hplayer.trans hkey⟩

theorem attack_mem_iff {state : MatchState} {first second : List OrderEnvelope}
    (h : Interleaved (·.playerId) first second) (attack : String × String) :
    attack ∈ attacksOf state (validateQueuedOrders state first) ↔
      attack ∈ attacksOf state (validateQueuedOrders state second) := by
  rw [attacksOf_validateQueuedOrders, attacksOf_validateQueuedOrders]
  exact ((combineSubmissionsByPlayer_perm h).flatMap_right _).mem_iff

/-- Whoever attacks a treaty's other party is blamed for it if all of that player's submissions come first. -/
theorem firstHit_promoted {state : MatchState} {submissions : List OrderEnvelope} {attack : String × String}
    {treaty : MatchTreaty} (hattack : attack ∈ attacksOf state (validateQueuedOrders state submissions))
    (hviolates : violates attack treaty = true) :
    ∃ first, Latch.firstHit violates (attacksOf state (validateQueuedOrders state
        (Interleaved.promoted (·.playerId) attack.1 submissions))) treaty = some first ∧ first.1 = attack.1 := by
  rw [attacksOf_validateQueuedOrders] at hattack
  obtain ⟨merged, hmerged, hgroup⟩ := List.mem_flatMap.1 hattack
  rw [groupAttacks_attacker hgroup]
  obtain ⟨submission, hsubmission, hplayer⟩ := mem_of_mem_combineSubmissions hmerged
  have hmem : merged ∈ combineSubmissionsByPlayer (Interleaved.promoted (·.playerId) merged.playerId submissions) :=
    (combineSubmissionsByPlayer_perm (Interleaved.promote (·.playerId) merged.playerId submissions)).subset hmerged
  -- The promoted list starts with a submission of the attacker, so merging puts the attacker's envelope first.
  have hown : submission ∈ submissions.filter fun submission => submission.playerId = merged.playerId :=
    List.mem_filter.2 ⟨hsubmission, by simpa using hplayer⟩
  obtain ⟨head, tail, hlist⟩ := List.exists_cons_of_ne_nil (List.ne_nil_of_mem hown)
  have hhead : head.playerId = merged.playerId := by
    have hhead : head ∈ submissions.filter fun submission => submission.playerId = merged.playerId := by
      rw [hlist]
      exact List.mem_cons_self
    simpa using (List.mem_filter.1 hhead).2
  rw [Interleaved.promoted, hlist, List.cons_append] at hmem
  rw [Interleaved.promoted, hlist, List.cons_append, attacksOf_validateQueuedOrders]
  obtain ⟨first, rest, hcombine, hfirst⟩ := combineSubmissionsByPlayer_cons head
    (tail ++ submissions.filter fun submission => submission.playerId ≠ merged.playerId)
  have heq : first = merged := by
    by_contra hne
    exact combineSubmissionsByPlayer_playerId_ne (by rw [hcombine]; exact List.mem_cons_self) hmem hne
      (hfirst.trans hhead)
  rw [hcombine, List.flatMap_cons, heq, Latch.firstHit, List.find?_append]
  cases hfind : (groupAttacks state merged).find? (fun attack => violates attack treaty) with
  | none => exact absurd hviolates (List.find?_eq_none.1 hfind attack hgroup)
  | some first => exact ⟨first, rfl, groupAttacks_attacker (List.mem_of_find?_eq_some hfind)⟩

/-! ### Both parties of a treaty -/

/-- Some active treaty is attacked by both of its parties. -/
def AttackedFromBothSides (record : MatchRecord) (attacks : List (String × String)) : Prop :=
  ∃ treaty ∈ record.treaties, ∃ attack ∈ attacks, ∃ attack' ∈ attacks,
    violates attack treaty = true ∧ violates attack' treaty = true ∧ attack.1 ≠ attack'.1

/-- The attacks of the movements that a tick accepts from a queue. -/
def queuedAttacks (record : MatchRecord) (submissions : List OrderEnvelope) : List (String × String) :=
  attacksOf record.state (validateQueuedOrders record.state (queuedForTick (withSubmissions record submissions)))

theorem queuedAttacks_mem_iff {record : MatchRecord} {first second : List OrderEnvelope}
    (h : Interleaved (·.playerId) first second) (attack : String × String) :
    attack ∈ queuedAttacks record first ↔ attack ∈ queuedAttacks record second :=
  attack_mem_iff (h.filter _) attack

theorem queuedAttacks_firstHit_promoted {record : MatchRecord} {submissions : List OrderEnvelope}
    {attack : String × String} {treaty : MatchTreaty} (hattack : attack ∈ queuedAttacks record submissions)
    (hviolates : violates attack treaty = true) :
    ∃ first, Latch.firstHit violates
        (queuedAttacks record (Interleaved.promoted (·.playerId) attack.1 submissions)) treaty = some first ∧
      first.1 = attack.1 := by
  unfold queuedAttacks
  rw [queuedForTick, withSubmissions, Interleaved.filter_promoted]
  exact firstHit_promoted hattack hviolates

theorem advanceMatchTick_treaties (record : MatchRecord) (submissions : List OrderEnvelope) :
    (advanceMatchTick (withSubmissions record submissions)).1.treaties =
      record.treaties.map (treatyFate record.state (queuedAttacks record submissions)) := by
  have hreconcile := reconcile_treaties (drainQueue (withSubmissions record submissions)) record.state
    (validateQueuedOrders record.state (queuedForTick (withSubmissions record submissions)))
  unfold advanceMatchTick
  simp only
  split <;> exact hreconcile

theorem advanceMatchTick_messages (record : MatchRecord) (submissions : List OrderEnvelope) :
    ((advanceMatchTick (withSubmissions record submissions)).1.messages.map MatchMessage.unnumbered).Perm
      (record.messages.map MatchMessage.unnumbered ++
        Latch.announced violates (breakAnnouncement record.state.tick) (queuedAttacks record submissions)
          record.treaties) := by
  have hreconcile := reconcile_messages (drainQueue (withSubmissions record submissions)) record.state
    (validateQueuedOrders record.state (queuedForTick (withSubmissions record submissions)))
  unfold advanceMatchTick
  simp only
  split <;> exact hreconcile

theorem treatyFate_withdrawnBy {state : MatchState} {attacks : List (String × String)} {treaty : MatchTreaty}
    {first : String × String} (hfirst : Latch.firstHit violates attacks treaty = some first) :
    (treatyFate state attacks treaty).withdrawnBy = some first.1 := by
  unfold treatyFate Latch.fate
  rw [hfirst]
  rfl

/-- Where no treaty is attacked from both sides, each treaty meets the same first attack in every interleaving. -/
theorem firstHit_interleaved {record : MatchRecord} {first second : List OrderEnvelope}
    (h : Interleaved (·.playerId) first second)
    (hsides : ¬ AttackedFromBothSides record (queuedAttacks record first)) {treaty : MatchTreaty}
    (htreaty : treaty ∈ record.treaties) :
    Latch.firstHit violates (queuedAttacks record first) treaty =
      Latch.firstHit violates (queuedAttacks record second) treaty := by
  apply Latch.firstHit_congr (queuedAttacks_mem_iff h)
  intro attack hattack attack' hattack' hviolates hviolates'
  apply violates_eq hviolates hviolates'
  by_contra hne
  exact hsides ⟨treaty, htreaty, attack, hattack, attack', hattack', hviolates, hviolates', hne⟩

/-- The treaties and the announcements of a tick are the same for every order of the players' submissions exactly when no active treaty is attacked by both of its parties. -/
theorem advanceMatchTick_blame_iff (record : MatchRecord) (submissions : List OrderEnvelope) :
    (∀ other, Interleaved (·.playerId) submissions other →
        (advanceMatchTick (withSubmissions record other)).1.treaties =
            (advanceMatchTick (withSubmissions record submissions)).1.treaties ∧
          ((advanceMatchTick (withSubmissions record other)).1.messages.map MatchMessage.unnumbered).Perm
            ((advanceMatchTick (withSubmissions record submissions)).1.messages.map MatchMessage.unnumbered)) ↔
      ¬ AttackedFromBothSides record (queuedAttacks record submissions) := by
  constructor
  · rintro hsame ⟨treaty, htreaty, attack, hattack, attack', hattack', hviolates, hviolates', hne⟩
    -- Let either attacker go first: each is blamed in its turn.
    have hblame : ∀ a ∈ queuedAttacks record submissions, violates a treaty = true →
        (treatyFate record.state (queuedAttacks record submissions) treaty).withdrawnBy = some a.1 := by
      intro a ha hviolatesA
      have htreaties := (hsame _ (Interleaved.promote (·.playerId) a.1 submissions)).1
      rw [advanceMatchTick_treaties, advanceMatchTick_treaties] at htreaties
      obtain ⟨first, hfirst, hattacker⟩ := queuedAttacks_firstHit_promoted ha hviolatesA
      rw [← List.map_inj_left.1 htreaties treaty htreaty, treatyFate_withdrawnBy hfirst, hattacker]
    have hboth := (hblame attack hattack hviolates).symm.trans (hblame attack' hattack' hviolates')
    exact hne (Option.some.inj hboth)
  · intro hsides other h
    constructor
    · rw [advanceMatchTick_treaties, advanceMatchTick_treaties]
      apply List.map_congr_left
      intro treaty htreaty
      unfold treatyFate Latch.fate
      rw [firstHit_interleaved h hsides htreaty]
    · have hannounced : Latch.announced violates (breakAnnouncement record.state.tick) (queuedAttacks record other)
            record.treaties =
          Latch.announced violates (breakAnnouncement record.state.tick) (queuedAttacks record submissions)
            record.treaties := by
        unfold Latch.announced
        apply List.filterMap_congr
        intro treaty htreaty
        rw [firstHit_interleaved h hsides htreaty]
      apply (advanceMatchTick_messages record other).trans
      rw [hannounced]
      exact (advanceMatchTick_messages record submissions).symm

/-- The duel with a pact between the two players. -/
def pactRecord : MatchRecord :=
  { duelRecord with
    treaties :=
      [{ treatyId := 0
         playerAId := "p1"
         playerBId := "p2"
         treatyType := .nonAggression
         status := .active
         proposedBy := "p1"
         proposedTick := 0
         signedTick := some 0
         withdrawnBy := none
         withdrawnTick := none }] }

/-- When both march on each other, the first to submit is blamed. -/
theorem pact_blame_depends_on_order :
    Interleaved (·.playerId) [duelMarch "p1" "a1" "southampton", duelMarch "p2" "a2" "london"]
        [duelMarch "p2" "a2" "london", duelMarch "p1" "a1" "southampton"] ∧
      (advanceMatchTick (withSubmissions pactRecord
          [duelMarch "p1" "a1" "southampton", duelMarch "p2" "a2" "london"])).1.treaties.map
            (fun treaty => (treaty.status, treaty.withdrawnBy)) = [(.brokenByA, some "p1")] ∧
      (advanceMatchTick (withSubmissions pactRecord
          [duelMarch "p2" "a2" "london", duelMarch "p1" "a1" "southampton"])).1.treaties.map
            (fun treaty => (treaty.status, treaty.withdrawnBy)) = [(.brokenByB, some "p2")] := by
  refine ⟨Interleaved.swap (by decide) [], ?_, ?_⟩
  · decide
  · decide

end IronCouncil
