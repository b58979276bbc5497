import IronCouncil.Base.Register
import IronCouncil.Proof.RecordRuns
import IronCouncil.Proof.TreatyBlame

/-!
# The life of a treaty

The treaties of a match are a register: a treaty is proposed at the end of the list, is signed by the other party, and is withdrawn or broken, after which nothing moves it. Every accepted action and every tick amends the register by such moves.
-/

namespace IronCouncil

/-! ### Moves of a treaty -/

namespace MatchTreaty

/-- The players and the type of a treaty. -/
def key (treaty : MatchTreaty) : (String × String) × TreatyType :=
  ((treaty.playerAId, treaty.playerBId), treaty.treatyType)

def IsParty (treaty : MatchTreaty) (playerId : String) : Prop :=
  playerId = treaty.playerAId ∨ playerId = treaty.playerBId

def Open (treaty : MatchTreaty) : Prop := treaty.status = .proposed ∨ treaty.status = .active

def Terminal (treaty : MatchTreaty) : Prop :=
  treaty.status = .withdrawn ∨ treaty.status = .brokenByA ∨ treaty.status = .brokenByB

def sign (treaty : MatchTreaty) (now : Nat) : MatchTreaty :=
  { treaty with status := .active, signedTick := some now }

def withdraw (treaty : MatchTreaty) (playerId : String) (now : Nat) : MatchTreaty :=
  { treaty with status := .withdrawn, withdrawnBy := some playerId, withdrawnTick := some now }

def breakBy (treaty : MatchTreaty) (attackerId : String) (now : Nat) : MatchTreaty :=
  { treaty with
    status := if attackerId = treaty.playerAId then .brokenByA else .brokenByB
    withdrawnBy := some attackerId
    withdrawnTick := some now }

end MatchTreaty

/-- What can become of a treaty at a time, where a player or the game acts. -/
inductive TreatyMove (now : Nat) (actor : Option String) : MatchTreaty → MatchTreaty → Prop
  | kept (treaty : MatchTreaty) : TreatyMove now actor treaty treaty
  | signed {treaty : MatchTreaty} {playerId : String} (hactor : actor = some playerId)
      (hparty : treaty.IsParty playerId) (hother : playerId ≠ treaty.proposedBy) (hproposed : treaty.status = .proposed) :
      TreatyMove now actor treaty (treaty.sign now)
  | withdrawn {treaty : MatchTreaty} {playerId : String} (hparty : treaty.IsParty playerId) (hopen : treaty.Open) :
      TreatyMove now actor treaty (treaty.withdraw playerId now)
  | broken {treaty : MatchTreaty} {attackerId : String} (hparty : treaty.IsParty attackerId)
      (hactive : treaty.status = .active) : TreatyMove now actor treaty (treaty.breakBy attackerId now)

/-- A treaty that is proposed at a time, where the latest one of its players and type is not open. -/
structure ProposedNow (now : Nat) (treaties : List MatchTreaty) (treaty : MatchTreaty) : Prop where
  id_eq : treaty.treatyId = treaties.length
  parties_lt : treaty.playerAId < treaty.playerBId
  proposer : treaty.IsParty treaty.proposedBy
  proposed : treaty.status = .proposed
  tick_eq : treaty.proposedTick = now
  unsigned : treaty.signedTick = none
  standing : treaty.withdrawnBy = none ∧ treaty.withdrawnTick = none
  latest_closed : ∀ latest, (treaties.filter fun earlier => earlier.key = treaty.key).getLast? = some latest →
    ¬ latest.Open

/-- The treaties after an operation at a time. -/
def TreatiesAmended (now : Nat) (actor : Option String) : List MatchTreaty → List MatchTreaty → Prop :=
  Register.Amended (TreatyMove now actor) (ProposedNow now)

theorem treatiesAmended_refl (now : Nat) (actor : Option String) (treaties : List MatchTreaty) :
    TreatiesAmended now actor treaties treaties := Register.Amended.refl (fun treaty => .kept treaty) treaties

/-! ### Treaty actions are moves -/

theorem sortedPair_lt {first second : String} (h : second ≠ first) :
    (sortedPair first second).1 < (sortedPair first second).2 := by
  unfold sortedPair
  split
  · rename_i hle
    exact lt_of_le_of_ne hle h.symm
  · rename_i hle
    exact not_le.1 hle

theorem mem_sortedPair (first second : String) :
    first = (sortedPair first second).1 ∨ first = (sortedPair first second).2 := by
  unfold sortedPair
  split
  · exact Or.inl rfl
  · exact Or.inr rfl

theorem isBetween_eq (treaty : MatchTreaty) (parties : String × String) (treatyType : TreatyType) :
    treaty.isBetween parties treatyType = decide (treaty.key = (parties, treatyType)) := by
  unfold MatchTreaty.isBetween MatchTreaty.key
  rw [decide_eq_decide, Prod.ext_iff, Prod.ext_iff, and_assoc]

theorem findLatestTreaty_isBetween {treaties : List MatchTreaty} {parties : String × String} {treatyType : TreatyType}
    {latest : MatchTreaty} (h : findLatestTreaty treaties parties treatyType = some latest) :
    latest.key = (parties, treatyType) := by
  have hmem := (List.mem_filter.1 (List.mem_of_getLast? h)).2
  rw [isBetween_eq] at hmem
  exact of_decide_eq_true hmem

section Actions

variable {record next : MatchRecord} {action : TreatyActionRequest} {playerId : String} {stored : MatchTreaty}

theorem proposeTreaty_amended (hdistinct : action.counterpartyId ≠ playerId)
    (h : proposeTreaty record (sortedPair playerId action.counterpartyId) action.treatyType playerId
      (findLatestTreaty record.treaties (sortedPair playerId action.counterpartyId) action.treatyType) =
        .ok (next, stored)) :
    TreatiesAmended record.state.tick (some playerId) record.treaties next.treaties := by
  unfold proposeTreaty at h
  split at h
  · cases h
  · rename_i hclosed
    cases h
    refine Register.Amended.admitted (fun treaty => .kept treaty)
      ⟨rfl, sortedPair_lt hdistinct, mem_sortedPair _ _, rfl, rfl, rfl, ⟨rfl, rfl⟩, ?_⟩
    intro latest hlatest hopen
    apply hclosed
    simp only [findLatestTreaty, isBetween_eq]
    simp only [MatchTreaty.key] at hlatest
    rw [Option.any_eq_true]
    refine ⟨latest, hlatest, ?_⟩
    rcases hopen with hopen | hopen <;> simp [hopen]

/-- An update of the latest treaty that is a move of it amends the treaties. -/
theorem updateLatestTreaty_amended {parties : String × String} {treatyType : TreatyType} {latest moved : MatchTreaty}
    (hlatest : findLatestTreaty record.treaties parties treatyType = some latest) {now : Nat} {actor : Option String}
    (hmove : TreatyMove now actor latest moved) :
    TreatiesAmended now actor record.treaties (updateLatestTreaty record parties treatyType moved).treaties := by
  refine ⟨_, (List.forall₂_modifyLastWhere _ _ record.treaties).imp ?_, Or.inl rfl⟩
  rintro before after (rfl | ⟨hlast, rfl⟩)
  · exact .kept _
  · obtain rfl : latest = before := Option.some.inj (hlatest.symm.trans hlast)
    exact hmove

theorem isParty_of_key {treaty : MatchTreaty} {counterpartyId : String} {treatyType : TreatyType}
    (h : treaty.key = (sortedPair playerId counterpartyId, treatyType)) : treaty.IsParty playerId := by
  have hparties : (treaty.playerAId, treaty.playerBId) = sortedPair playerId counterpartyId := congrArg Prod.fst h
  have hmem := mem_sortedPair playerId counterpartyId
  rw [← hparties] at hmem
  exact hmem

/-- An accepted treaty action between distinct players amends the treaties. -/
theorem applyTreatyAction_amended (hdistinct : action.counterpartyId ≠ playerId)
    (h : applyTreatyAction record action playerId = .ok (next, stored)) :
    TreatiesAmended record.state.tick (some playerId) record.treaties next.treaties := by
  unfold applyTreatyAction at h
  dsimp only at h
  split at h
  · exact proposeTreaty_amended hdistinct h
  · cases h
  · cases h
  · rename_i latest _ hlatest
    have hparty := isParty_of_key (findLatestTreaty_isBetween hlatest)
    unfold acceptTreaty at h
    split at h
    · cases h
    · rename_i hproposed
      obtain ⟨hproposed, hother⟩ := not_or.1 hproposed
      cases h
      exact updateLatestTreaty_amended hlatest (.signed rfl hparty (Ne.symm hother) (not_not.1 hproposed))
  · rename_i latest _ hlatest
    have hparty := isParty_of_key (findLatestTreaty_isBetween hlatest)
    unfold withdrawTreaty at h
    split at h
    · cases h
    · rename_i hopen
      cases h
      rw [not_not] at hopen
      refine updateLatestTreaty_amended hlatest (.withdrawn hparty ?_)
      simpa [MatchTreaty.Open] using hopen

end Actions

/-! ### Ticks are moves -/

theorem breakTreaty_eq_breakBy {attack : String × String} {treaty : MatchTreaty} (now : Nat)
    (hviolates : violates attack treaty = true) :
    breakTreaty attack.1 attack.2 now treaty = treaty.breakBy attack.1 now := by
  simp only [violates, MatchTreaty.isActiveBetween, decide_eq_true_eq] at hviolates
  unfold breakTreaty MatchTreaty.breakBy
  rw [hviolates.1]

/-- Under the attacks of a tick a treaty stays or is broken by one of its parties. -/
theorem treatyFate_move (state : MatchState) (attacks : List (String × String)) (treaty : MatchTreaty) :
    TreatyMove state.tick none treaty (treatyFate state attacks treaty) := by
  unfold treatyFate Latch.fate
  split
  · exact .kept treaty
  · rename_i attack hhit
    have hviolates : violates attack treaty = true := by simpa using List.find?_some hhit
    dsimp only
    rw [breakTreaty_eq_breakBy state.tick hviolates]
    simp only [violates, MatchTreaty.isActiveBetween, decide_eq_true_eq] at hviolates
    obtain ⟨hfirst, hsecond, hactive⟩ := hviolates
    have hparty := mem_sortedPair attack.1 attack.2
    rw [← hfirst, ← hsecond] at hparty
    exact .broken hparty hactive

theorem advanceMatchTick_amended (record : MatchRecord) :
    TreatiesAmended record.state.tick none record.treaties (advanceMatchTick record).1.treaties := by
  have htreaties := advanceMatchTick_treaties record record.orderSubmissions
  change (advanceMatchTick record).1.treaties = _ at htreaties
  rw [htreaties]
  refine ⟨_, ?_, Or.inl rfl⟩
  rw [List.forall₂_map_right_iff, List.forall₂_same]
  exact fun treaty _ => treatyFate_move _ _ treaty

/-! ### What moves keep -/

/-- A treaty up to a time: its fields say who proposed, signed and ended it, and when. -/
structure TreatyLife (now : Nat) (treaty : MatchTreaty) : Prop where
  parties_lt : treaty.playerAId < treaty.playerBId
  proposer : treaty.IsParty treaty.proposedBy
  open_or_terminal : treaty.Open ∨ treaty.Terminal
  proposed_le : treaty.proposedTick ≤ now
  signed_tick : ∀ signed, treaty.signedTick = some signed → treaty.proposedTick ≤ signed ∧ signed ≤ now
  withdrawn_tick : ∀ withdrawn, treaty.withdrawnTick = some withdrawn →
    treaty.proposedTick ≤ withdrawn ∧ withdrawn ≤ now ∧ ∀ signed, treaty.signedTick = some signed → signed ≤ withdrawn
  active_signed : treaty.status = .active → treaty.signedTick ≠ none
  standing : treaty.Open → treaty.withdrawnBy = none ∧ treaty.withdrawnTick = none
  withdrawn_by : ∀ playerId, treaty.withdrawnBy = some playerId → treaty.IsParty playerId
  broken_by_a : treaty.status = .brokenByA → treaty.withdrawnBy = some treaty.playerAId
  broken_by_b : treaty.status = .brokenByB → treaty.withdrawnBy = some treaty.playerBId

theorem TreatyLife.mono {now later : Nat} (hle : now ≤ later) {treaty : MatchTreaty} (h : TreatyLife now treaty) :
    TreatyLife later treaty where
  parties_lt := h.parties_lt
  proposer := h.proposer
  open_or_terminal := h.open_or_terminal
  proposed_le := h.proposed_le.trans hle
  signed_tick := by
    intro signed hsigned
    obtain ⟨hproposed, hnow⟩ := h.signed_tick signed hsigned
    exact ⟨hproposed, hnow.trans hle⟩
  withdrawn_tick := by
    intro withdrawn hwithdrawn
    obtain ⟨hproposed, hnow, hsigned⟩ := h.withdrawn_tick withdrawn hwithdrawn
    exact ⟨hproposed, hnow.trans hle, hsigned⟩
  active_signed := h.active_signed
  standing := h.standing
  withdrawn_by := h.withdrawn_by
  broken_by_a := h.broken_by_a
  broken_by_b := h.broken_by_b

section Moves

variable {now : Nat} {actor : Option String} {treaty treaty' : MatchTreaty}

theorem treatyLife_proposed {treaties : List MatchTreaty} (h : ProposedNow now treaties treaty) :
    TreatyLife now treaty := by
  have hopen : treaty.Open := Or.inl h.proposed
  constructor
  · exact h.parties_lt
  · exact h.proposer
  · exact Or.inl hopen
  · exact h.tick_eq.le
  · simp [h.unsigned]
  · simp [h.standing.2]
  · simp [h.proposed]
  · exact fun _ => h.standing
  · simp [h.standing.1]
  · simp [h.proposed]
  · simp [h.proposed]

theorem treatyLife_signed (h : TreatyLife now treaty) (hproposed : treaty.status = .proposed) :
    TreatyLife now (treaty.sign now) := by
  have hstanding := h.standing (Or.inl hproposed)
  constructor
  · exact h.parties_lt
  · exact h.proposer
  · exact Or.inl (Or.inr rfl)
  · exact h.proposed_le
  · intro signed hsigned
    obtain rfl : now = signed := Option.some.inj hsigned
    exact ⟨h.proposed_le, le_refl now⟩
  · simp [MatchTreaty.sign, hstanding.2]
  · simp [MatchTreaty.sign]
  · exact fun _ => hstanding
  · simp [MatchTreaty.sign, hstanding.1]
  · simp [MatchTreaty.sign]
  · simp [MatchTreaty.sign]

/-- Ending a treaty, by withdrawal or by an attack, sets who ended it and when. -/
theorem treatyLife_ended (h : TreatyLife now treaty) {playerId : String} (hparty : treaty.IsParty playerId)
    {status : TreatyStatus} (hterminal : status = .withdrawn ∨ (status = .brokenByA ∧ playerId = treaty.playerAId) ∨
      (status = .brokenByB ∧ playerId = treaty.playerBId)) :
    TreatyLife now { treaty with status := status, withdrawnBy := some playerId, withdrawnTick := some now } := by
  constructor
  · exact h.parties_lt
  · exact h.proposer
  · right
    rcases hterminal with rfl | ⟨rfl, -⟩ | ⟨rfl, -⟩
    · exact Or.inl rfl
    · exact Or.inr (Or.inl rfl)
    · exact Or.inr (Or.inr rfl)
  · exact h.proposed_le
  · exact h.signed_tick
  · intro withdrawn hwithdrawn
    obtain rfl : now = withdrawn := Option.some.inj hwithdrawn
    exact ⟨h.proposed_le, le_refl now, fun signed hsigned => (h.signed_tick signed hsigned).2⟩
  · rcases hterminal with rfl | ⟨rfl, -⟩ | ⟨rfl, -⟩ <;> simp
  · intro hopen
    rcases hterminal with rfl | ⟨rfl, -⟩ | ⟨rfl, -⟩ <;> simp [MatchTreaty.Open] at hopen
  · intro other hother
    obtain rfl : playerId = other := Option.some.inj hother
    exact hparty
  · rcases hterminal with rfl | ⟨rfl, rfl⟩ | ⟨rfl, -⟩ <;> simp
  · rcases hterminal with rfl | ⟨rfl, -⟩ | ⟨rfl, rfl⟩ <;> simp

theorem treatyLife_move (h : TreatyMove now actor treaty treaty') (hlife : TreatyLife now treaty) :
    TreatyLife now treaty' := by
  cases h with
  | kept => exact hlife
  | signed hactor hparty hother hproposed => exact treatyLife_signed hlife hproposed
  | withdrawn hparty hopen => exact treatyLife_ended hlife hparty (Or.inl rfl)
  | broken hparty hactive =>
      apply treatyLife_ended hlife hparty
      have hne := hlife.parties_lt.ne
      rcases hparty with rfl | rfl
      · exact Or.inr (Or.inl ⟨if_pos rfl, rfl⟩)
      · exact Or.inr (Or.inr ⟨if_neg hne.symm, rfl⟩)

theorem treatyMove_key (h : TreatyMove now actor treaty treaty') : treaty'.key = treaty.key := by
  cases h <;> rfl

theorem treatyMove_treatyId (h : TreatyMove now actor treaty treaty') : treaty'.treatyId = treaty.treatyId := by
  cases h <;> rfl

theorem treatyMove_open (h : TreatyMove now actor treaty treaty') (hopen : treaty'.Open) : treaty.Open := by
  cases h with
  | kept => exact hopen
  | signed hactor hparty hother hproposed => exact Or.inl hproposed
  | withdrawn hparty hopen' => exact hopen'
  | broken hparty hactive => exact Or.inr hactive

theorem treatyMove_terminal (h : TreatyMove now actor treaty treaty') (hterminal : treaty.Terminal) :
    treaty' = treaty := by
  cases h with
  | kept => rfl
  | signed hactor hparty hother hproposed => simp [MatchTreaty.Terminal, hproposed] at hterminal
  | withdrawn hparty hopen =>
      rcases hopen with hopen | hopen <;> simp [MatchTreaty.Terminal, hopen] at hterminal
  | broken hparty hactive => simp [MatchTreaty.Terminal, hactive] at hterminal

theorem treatyMove_signed (h : TreatyMove now actor treaty treaty') :
    (treaty.signedTick ≠ none → treaty'.signedTick ≠ none) ∧
      (treaty'.signedTick ≠ none → treaty.signedTick ≠ none ∨ treaty'.status = .active) := by
  cases h with
  | kept => exact ⟨id, Or.inl⟩
  | signed hactor hparty hother hproposed => exact ⟨fun _ => Option.some_ne_none now, fun _ => Or.inr rfl⟩
  | withdrawn hparty hopen => exact ⟨id, Or.inl⟩
  | broken hparty hactive => exact ⟨id, Or.inl⟩

end Moves

/-- The treaties of a match at a time. -/
structure TreatiesRegular (now : Nat) (treaties : List MatchTreaty) : Prop where
  life : ∀ treaty ∈ treaties, TreatyLife now treaty
  id_index : ∀ (k : Nat) (treaty : MatchTreaty), treaties[k]? = some treaty → treaty.treatyId = k
  open_latest : treaties.Pairwise fun earlier later => earlier.key = later.key → ¬ earlier.Open

theorem treatiesRegular_amended {now : Nat} {actor : Option String} {before after : List MatchTreaty}
    (h : TreatiesAmended now actor before after) (hregular : TreatiesRegular now before) :
    TreatiesRegular now after where
  life := by
    refine Register.Amended.forall_mem (P := TreatyLife now) (Q := TreatyLife now) ?_ ?_ h hregular.life
    · exact fun _ _ => treatyLife_move
    · exact fun _ => treatyLife_proposed
  id_index := by
    intro k treaty htreaty
    rcases h.origin htreaty with ⟨earlier, hearlier, hmove⟩ | ⟨-, hk, hproposed⟩
    · rw [treatyMove_treatyId hmove, hregular.id_index k earlier hearlier]
    · rw [hproposed.id_eq, hk]
  open_latest := by
    have hbefore : Register.LatestLive MatchTreaty.key MatchTreaty.Open before := hregular.open_latest
    refine Register.LatestLive.amended ?_ ?_ ?_ h hbefore
    · exact fun _ _ => treatyMove_key
    · exact fun _ _ => treatyMove_open
    · intro treaty hproposed
      exact hbefore.not_live hproposed.latest_closed

/-! ### The moments of a run -/

/-- The records that an operation leads through, item by item. -/
def eachMoment {ι ρ : Type} (operation : MatchRecord → ι → Except RegistryError (MatchRecord × ρ)) :
    MatchRecord → List ι → List MatchRecord
  | _, [] => []
  | record, item :: items =>
      match operation record item with
      | .error _ => []
      | .ok (next, _) => next :: eachMoment operation next items

/-- The records that an accepted envelope leads through: with its messages posted, and after each treaty action. -/
def envelopeMoments (record : MatchRecord) (command : AgentCommandEnvelopeRequest) (playerId : String) :
    List MatchRecord :=
  match applyEach (postCommandMessage record.matchId playerId command.tick)
      (recordCommandOrders record record.matchId command playerId).1 command.messages with
  | .error _ => []
  | .ok (posted, _) => posted :: eachMoment (applyCommandTreaty record.matchId playerId) posted command.treaties

def innerMoments (record : MatchRecord) : RecordEvent → List MatchRecord
  | .command playerId (.envelope command) =>
      match applyCommandEnvelope record record.matchId command playerId with
      | .error _ => []
      | .ok _ => envelopeMoments record command playerId
  | _ => []

/-- The records that an event leads through, the one it ends with last. -/
def eventMoments (record : MatchRecord) (event : RecordEvent) : List MatchRecord :=
  innerMoments record event ++ [recordStep record event]

/-- All records that a run leads through. -/
def runMoments : MatchRecord → List RecordEvent → List MatchRecord
  | record, [] => [record]
  | record, event :: events => record :: (eventMoments record event ++ runMoments (recordStep record event) events)

def RecordEvent.actor : RecordEvent → Option String
  | .command playerId _ => some playerId
  | .tick => none
  | .seed => none

/-- From one moment to the next the treaties are amended at the time of the first. -/
def TreatyMoment (actor : Option String) (before after : MatchRecord) : Prop :=
  TreatiesAmended before.state.tick actor before.treaties after.treaties ∧ before.state.tick ≤ after.state.tick

theorem treatyMoment_of_frame {actor : Option String} {before after : MatchRecord}
    (htreaties : after.treaties = before.treaties) (htick : after.state.tick = before.state.tick) :
    TreatyMoment actor before after := by
  refine ⟨?_, htick.ge⟩
  rw [htreaties]
  exact treatiesAmended_refl _ actor before.treaties

theorem treatyMoment_treated {playerId : String} {before after : MatchRecord} (h : Treated playerId before after) :
    TreatyMoment (some playerId) before after := by
  obtain ⟨action, stored, hdistinct, haction⟩ := h
  obtain ⟨treaties, messages, rfl⟩ := applyTreatyAction_frame haction
  exact ⟨applyTreatyAction_amended hdistinct haction, le_refl _⟩

theorem treatyMoment_part {playerId : String} {before after : MatchRecord}
    (h : CommandPart (fun action => action.counterpartyId ≠ playerId) playerId before after) :
    TreatyMoment (some playerId) before after := by
  cases h with
  | submitted envelope => exact treatyMoment_of_frame rfl rfl
  | posted messages groupChats => exact treatyMoment_of_frame rfl rfl
  | treaty hallowed haction => exact treatyMoment_treated ⟨_, _, hallowed, haction⟩
  | alliance haction =>
      obtain ⟨alliances, allianceId, rfl, -⟩ := applyAllianceAction_eq_ok haction
      exact treatyMoment_of_frame rfl rfl

theorem advanceMatchTick_tick_le (record : MatchRecord) : record.state.tick ≤ (advanceMatchTick record).1.state.tick := by
  cases h : settledBoard record with
  | error error => rw [(advanceMatchTick_of_error h).1]
  | ok settled =>
      rw [(advanceMatchTick_of_settled h).1]
      exact Nat.le_succ record.state.tick

theorem eachMoment_chain {ι ρ : Type} {operation : MatchRecord → ι → Except RegistryError (MatchRecord × ρ)}
    {R : MatchRecord → MatchRecord → Prop}
    (hoperation : ∀ record item next response, operation record item = .ok (next, response) → R record next)
    {record last : MatchRecord} {items : List ι} {responses : List ρ}
    (h : applyEach operation record items = .ok (last, responses)) :
    (record :: eachMoment operation record items).IsChain R ∧
      (record :: eachMoment operation record items).getLast? = some last := by
  induction items generalizing record responses with
  | nil =>
      cases h
      exact ⟨List.isChain_singleton _, rfl⟩
  | cons item items ih =>
      unfold applyEach at h
      unfold eachMoment
      cases hfirst : operation record item with
      | error error =>
          rw [hfirst] at h
          cases h
      | ok outcome =>
          obtain ⟨next, response⟩ := outcome
          rw [hfirst] at h
          simp only at h ⊢
          split at h
          · cases h
          · rename_i reached rest hrest
            cases h
            obtain ⟨hchain, hlast⟩ := ih hrest
            refine ⟨List.isChain_cons_cons.2 ⟨hoperation _ _ _ _ hfirst, hchain⟩, ?_⟩
            rw [List.getLast?_cons_cons]
            exact hlast

/-- Submitting and posting leave the treaties alone. -/
theorem treatyMoment_posted {record posted : MatchRecord} {command : AgentCommandEnvelopeRequest}
    {playerId : String} {acceptances : List MessageAcceptance}
    (h : applyEach (postCommandMessage record.matchId playerId command.tick)
      (recordCommandOrders record record.matchId command playerId).1 command.messages = .ok (posted, acceptances)) :
    TreatyMoment (some playerId) record posted := by
  have hordered : (recordCommandOrders record record.matchId command playerId).1.treaties = record.treaties ∧
      (recordCommandOrders record record.matchId command playerId).1.state = record.state := by
    unfold recordCommandOrders
    split
    · exact ⟨rfl, rfl⟩
    · exact ⟨rfl, rfl⟩
  have hposts : Relation.ReflTransGen Posted (recordCommandOrders record record.matchId command playerId).1 posted := by
    apply applyEach_reaches _ h
    intro before message after acceptance hposted
    exact postCommandMessage_posted hposted
  have hposted : posted.treaties = record.treaties ∧ posted.state = record.state := by
    refine keeps_reached (I := fun reached => reached.treaties = record.treaties ∧ reached.state = record.state)
      ?_ hposts hordered
    rintro before after ⟨messages, groupChats, rfl⟩ hbefore
    exact hbefore
  exact treatyMoment_of_frame hposted.1 (congrArg MatchState.tick hposted.2)

theorem envelopeMoments_chain {record last : MatchRecord} {command : AgentCommandEnvelopeRequest} {playerId : String}
    {response : AgentCommandEnvelopeResponse}
    (h : applyCommandEnvelope record record.matchId command playerId = .ok (last, response)) :
    (record :: (envelopeMoments record command playerId ++ [last])).IsChain (TreatyMoment (some playerId)) := by
  unfold applyCommandEnvelope at h
  split at h
  · cases h
  · unfold applyCommandEnvelopeMutations at h
    dsimp only at h
    split at h
    · cases h
    · rename_i posted acceptances hmessages
      split at h
      · cases h
      · rename_i negotiated treaties htreaties
        split at h
        · cases h
        · rename_i allied alliance halliance
          cases h
          have hfirst := treatyMoment_posted hmessages
          obtain ⟨hchain, hnegotiated⟩ : (posted :: eachMoment (applyCommandTreaty record.matchId playerId) posted
              command.treaties).IsChain (TreatyMoment (some playerId)) ∧ _ := by
            apply eachMoment_chain _ htreaties
            intro before action after stored htreaty
            exact treatyMoment_treated ⟨action, stored, applyCommandTreaty_eq_ok htreaty⟩
          have hlast : TreatyMoment (some playerId) negotiated last := by
            unfold applyCommandAlliance at halliance
            split at halliance
            · cases halliance
              exact treatyMoment_of_frame rfl rfl
            · obtain ⟨⟨allied, result⟩, hallied, heq⟩ := Except.map_eq_ok halliance
              cases heq
              exact treatyMoment_part (.alliance hallied)
          unfold envelopeMoments
          rw [hmessages]
          refine List.isChain_cons_cons.2 ⟨hfirst, hchain.append (List.isChain_singleton last) ?_⟩
          intro before hbefore after hafter
          obtain rfl : negotiated = before := Option.some.inj (hnegotiated.symm.trans hbefore)
          obtain rfl : last = after := by simpa using hafter
          exact hlast

theorem eventMoments_chain {record : MatchRecord} {event : RecordEvent} (hevent : event.BetweenDistinct) :
    (record :: eventMoments record event).IsChain (TreatyMoment event.actor) := by
  have hsingle : ∀ event : RecordEvent, innerMoments record event = [] →
      TreatyMoment event.actor record (recordStep record event) →
      (record :: eventMoments record event).IsChain (TreatyMoment event.actor) := by
    intro event hinner hmoment
    unfold eventMoments
    rw [hinner]
    exact List.isChain_pair.2 hmoment
  cases event with
  | tick => exact hsingle .tick rfl ⟨advanceMatchTick_amended record, advanceMatchTick_tick_le record⟩
  | seed => exact hsingle .seed rfl (treatyMoment_of_frame rfl rfl)
  | command playerId issued =>
      cases happly : applyMatchCommand record playerId issued with
      | error error =>
          have hrejected : recordStep record (.command playerId issued) = record := by
            dsimp only [recordStep]
            rw [happly]
          apply hsingle
          · cases issued with
            | envelope command =>
                dsimp only [innerMoments]
                split
                · rfl
                · rename_i applied happlied
                  dsimp only [applyMatchCommand] at happly
                  rw [happlied] at happly
                  cases happly
            | _ => rfl
          · rw [hrejected]
            exact treatyMoment_of_frame rfl rfl
      | ok applied =>
          obtain ⟨next, accepted⟩ := applied
          have haccepted : recordStep record (.command playerId issued) = next := by
            dsimp only [recordStep]
            rw [happly]
          by_cases hdirect : ∀ envelope, issued ≠ .envelope envelope
          · apply hsingle
            · cases issued with
              | envelope command => exact absurd rfl (hdirect command)
              | _ => rfl
            · rw [haccepted]
              exact treatyMoment_part (applyMatchCommand_part hdirect hevent happly)
          · obtain ⟨envelope, hcommand⟩ := not_forall.1 hdirect
            obtain rfl := not_not.1 hcommand
            obtain ⟨response, happlied⟩ := applyMatchCommand_envelope happly
            unfold eventMoments
            rw [haccepted]
            dsimp only [innerMoments]
            rw [happlied]
            exact envelopeMoments_chain happlied

/-- From one moment of a run to the next somebody, or the game, has acted. -/
def AnyMoment (before after : MatchRecord) : Prop := ∃ actor, TreatyMoment actor before after

theorem head?_runMoments (record : MatchRecord) (events : List RecordEvent) :
    (runMoments record events).head? = some record := by
  cases events <;> rfl

theorem head_runMoments (record : MatchRecord) (events : List RecordEvent) (hne : runMoments record events ≠ []) :
    (runMoments record events).head hne = record := by
  have hhead := head?_runMoments record events
  rwa [List.head?_eq_some_head hne, Option.some.injEq] at hhead

theorem getLast?_eventMoments (record : MatchRecord) (event : RecordEvent) :
    (record :: eventMoments record event).getLast? = some (recordStep record event) := by
  unfold eventMoments
  rw [← List.cons_append, List.getLast?_append]
  rfl

theorem getLast?_runMoments (record : MatchRecord) (events : List RecordEvent) :
    (runMoments record events).getLast? = some (events.foldl recordStep record) := by
  induction events generalizing record with
  | nil => rfl
  | cons event events ih =>
      unfold runMoments
      rw [← List.cons_append, List.getLast?_append, ih (recordStep record event)]
      rfl

theorem runMoments_chain (record : MatchRecord) {events : List RecordEvent}
    (hevents : ∀ event ∈ events, event.BetweenDistinct) : (runMoments record events).IsChain AnyMoment := by
  induction events generalizing record with
  | nil => exact List.isChain_singleton record
  | cons event events ih =>
      obtain ⟨hevent, hevents⟩ := List.forall_mem_cons.1 hevents
      have hfirst : (record :: eventMoments record event).IsChain AnyMoment :=
        (eventMoments_chain hevent).imp fun before after h => ⟨event.actor, h⟩
      unfold runMoments
      rw [← List.cons_append]
      refine hfirst.append (ih (recordStep record event) hevents) ?_
      intro before hbefore after hafter
      rw [getLast?_eventMoments] at hbefore
      rw [head?_runMoments] at hafter
      obtain rfl : recordStep record event = before := Option.some.inj hbefore
      obtain rfl : recordStep record event = after := Option.some.inj hafter
      exact ⟨none, treatyMoment_of_frame rfl rfl⟩

/-- The treaties at the moments of a run, as the history of a register. -/
theorem treatyHistory_chain (record : MatchRecord) {events : List RecordEvent}
    (hevents : ∀ event ∈ events, event.BetweenDistinct) :
    ((runMoments record events).map (·.treaties)).IsChain
      (Register.Amended (fun treaty treaty' => ∃ now actor, TreatyMove now actor treaty treaty')
        (fun treaties treaty => ∃ now, ProposedNow now treaties treaty)) := by
  rw [List.isChain_map]
  refine (runMoments_chain record hevents).imp ?_
  rintro before after ⟨actor, hamended, -⟩
  exact hamended.imp (fun treaty treaty' hmove => ⟨before.state.tick, actor, hmove⟩)
    (fun treaties treaty hproposed => ⟨before.state.tick, hproposed⟩)

/-! ### Whole runs -/

theorem treatiesRegular_moment {before after : MatchRecord} (h : AnyMoment before after)
    (hregular : TreatiesRegular before.state.tick before.treaties) :
    TreatiesRegular after.state.tick after.treaties := by
  obtain ⟨actor, hamended, htick⟩ := h
  have hafter := treatiesRegular_amended hamended hregular
  exact ⟨fun treaty hmem => (hafter.life treaty hmem).mono htick, hafter.id_index, hafter.open_latest⟩

theorem treatiesRegular_nil (now : Nat) : TreatiesRegular now [] where
  life := by simp
  id_index := by simp
  open_latest := List.Pairwise.nil

/-- A treaty that an event makes active was signed by the event's player, who did not propose it. -/
theorem eventMoments_active {record : MatchRecord} {event : RecordEvent} (hevent : event.BetweenDistinct) :
    ∀ moment ∈ eventMoments record event, ∀ (k : Nat) (treaty : MatchTreaty), moment.treaties[k]? = some treaty →
      treaty.status = .active →
      (∃ before, record.treaties[k]? = some before ∧ before.status = .active) ∨
        ∃ playerId, event.actor = some playerId ∧ treaty.IsParty playerId ∧ playerId ≠ treaty.proposedBy := by
  have hchain : (record :: eventMoments record event).IsChain (TreatyMoment event.actor) := eventMoments_chain hevent
  have hall := hchain.induction
    (fun moment => ∀ (k : Nat) (treaty : MatchTreaty), moment.treaties[k]? = some treaty → treaty.status = .active →
      (∃ before, record.treaties[k]? = some before ∧ before.status = .active) ∨
        ∃ playerId, event.actor = some playerId ∧ treaty.IsParty playerId ∧ playerId ≠ treaty.proposedBy) _ ?_ ?_
  · exact fun moment hmoment => hall moment (List.mem_cons_of_mem record hmoment)
  · rintro before after ⟨hamended, -⟩ hbefore k treaty htreaty hactive
    rcases hamended.origin htreaty with ⟨earlier, hearlier, hmove⟩ | ⟨-, -, hproposed⟩
    · cases hmove with
      | kept => exact hbefore k _ hearlier hactive
      | signed hactor hparty hother hproposed => exact Or.inr ⟨_, hactor, hparty, hother⟩
      | withdrawn hparty hopen => cases hactive
      | broken hparty hactive' =>
          dsimp only [MatchTreaty.breakBy] at hactive
          split at hactive <;> cases hactive
    · rw [hproposed.proposed] at hactive
      cases hactive
  · intro hne k treaty htreaty hactive
    exact Or.inl ⟨treaty, htreaty, hactive⟩

structure TreatyMachine (record : MatchRecord) (events : List RecordEvent) : Prop where
  /-- At every moment one treaty of two players and a type is open at most, the latest one, and every treaty's fields tell its life. -/
  regular : ∀ moment ∈ runMoments record events, TreatiesRegular moment.state.tick moment.treaties
  /-- A terminal treaty stays as it is. -/
  terminal_final : (runMoments record events).Pairwise fun earlier later => ∀ (k : Nat) (treaty : MatchTreaty),
    earlier.treaties[k]? = some treaty → treaty.Terminal → later.treaties[k]? = some treaty
  /-- Only a party that did not propose a treaty makes it active. -/
  signed_by_counterparty : ∀ taken ∈ Run.steps recordStep record events,
    ∀ moment ∈ eventMoments taken.1 taken.2, ∀ (k : Nat) (treaty : MatchTreaty), moment.treaties[k]? = some treaty →
      treaty.status = .active → (∀ before, taken.1.treaties[k]? = some before → before.status ≠ .active) →
      ∃ playerId issued, taken.2 = .command playerId issued ∧ treaty.IsParty playerId ∧ playerId ≠ treaty.proposedBy
  /-- A treaty has a signing tick exactly if it was active at some moment. -/
  signed_iff_active : ∀ (k : Nat) (treaty : MatchTreaty), (events.foldl recordStep record).treaties[k]? = some treaty →
    (treaty.signedTick ≠ none ↔ ∃ moment ∈ runMoments record events, ∃ earlier : MatchTreaty,
      moment.treaties[k]? = some earlier ∧ earlier.status = .active)

theorem treatyMachine (record : MatchRecord) (events : List RecordEvent) (hempty : record.treaties = [])
    (hevents : ∀ event ∈ events, event.BetweenDistinct) : TreatyMachine record events := by
  have hchain := treatyHistory_chain record hevents
  have hregular : ∀ moment ∈ runMoments record events, TreatiesRegular moment.state.tick moment.treaties := by
    refine (runMoments_chain record hevents).induction
      (fun moment => TreatiesRegular moment.state.tick moment.treaties) _ (fun _ _ => treatiesRegular_moment) ?_
    intro hne
    rw [head_runMoments, hempty]
    exact treatiesRegular_nil record.state.tick
  refine ⟨hregular, ?_, ?_, ?_⟩
  · have hfinal := Register.pairwise_final (F := MatchTreaty.Terminal) hchain ?_
    · rwa [List.pairwise_map] at hfinal
    · rintro treaty treaty' ⟨now, actor, hmove⟩ hterminal
      exact treatyMove_terminal hmove hterminal
  · intro taken htaken moment hmoment k treaty htreaty hactive hbefore
    obtain ⟨before, after, hsplit, -⟩ := Run.mem_steps.1 htaken
    have hevent : taken.2.BetweenDistinct := hevents taken.2 (by rw [hsplit]; simp)
    rcases eventMoments_active hevent moment hmoment k treaty htreaty hactive with
      ⟨earlier, hearlier, hwas⟩ | ⟨playerId, hactor, hparty, hother⟩
    · exact absurd hwas (hbefore earlier hearlier)
    · cases hissued : taken.2 with
      | command issuer issued =>
          rw [hissued] at hactor
          obtain rfl : issuer = playerId := Option.some.inj hactor
          exact ⟨issuer, issued, rfl, hparty, hother⟩
      | tick =>
          rw [hissued] at hactor
          cases hactor
      | seed =>
          rw [hissued] at hactor
          cases hactor
  · intro k treaty htreaty
    constructor
    · intro hsigned
      obtain ⟨earlier, hearlier, active, hactive, hstatus⟩ :=
        Register.exists_marked (Q := fun treaty => treaty.signedTick ≠ none)
          (M := fun treaty => treaty.status = .active) hchain
          (fun treaty treaty' hmove => by
            obtain ⟨now, actor, hmove⟩ := hmove
            exact (treatyMove_signed hmove).2)
          (fun treaties treaty hproposed => by
            obtain ⟨now, hproposed⟩ := hproposed
            simp [hproposed.unsigned])
          (fun hne treaty hmem => by
            rw [List.head_map, head_runMoments, hempty] at hmem
            cases hmem)
          _ (List.mem_map_of_mem (List.mem_of_getLast? (getLast?_runMoments record events))) k treaty htreaty hsigned
      obtain ⟨moment, hmoment, rfl⟩ := List.mem_map.1 hearlier
      exact ⟨moment, hmoment, active, hactive, hstatus⟩
    · rintro ⟨moment, hmoment, earlier, hearlier, hactive⟩
      have hsigned : earlier.signedTick ≠ none :=
        ((hregular moment hmoment).life earlier (List.mem_of_getElem? hearlier)).active_signed hactive
      have hkept := Register.pairwise_kept (Q := fun treaty => treaty.signedTick ≠ none) hchain
        fun treaty treaty' hmove => by
          obtain ⟨now, actor, hmove⟩ := hmove
          exact (treatyMove_signed hmove).1
      rw [List.pairwise_map] at hkept
      obtain ⟨init, hsplit⟩ := List.getLast?_eq_some_iff.1 (getLast?_runMoments record events)
      rw [hsplit] at hmoment hkept
      rcases List.mem_append.1 hmoment with hinit | hlast
      · obtain ⟨treaty', htreaty', hsigned'⟩ :=
          (List.pairwise_append.1 hkept).2.2 moment hinit _ (List.mem_singleton_self _) k earlier hearlier hsigned
        rwa [Option.some.inj (htreaty.symm.trans htreaty')]
      · rw [List.mem_singleton.1 hlast, htreaty] at hearlier
        rwa [Option.some.inj hearlier]

/-! ### A duel -/

/-- A pact is proposed, signed in an envelope, broken by a march, and proposed anew. -/
def pactRun : List RecordEvent :=
  [.command "p2" (.treaty ⟨"p1", .propose, .nonAggression⟩),
    .command "p1" (.envelope ⟨0, OrderBatch.empty, [], [⟨"p2", .accept, .nonAggression⟩], none⟩),
    .command "p1" (.orders { OrderBatch.empty with movements := [⟨"a1", "southampton"⟩] }), .tick,
    .command "p1" (.treaty ⟨"p2", .propose, .nonAggression⟩)]

theorem pactRun_betweenDistinct : ∀ event ∈ pactRun, event.BetweenDistinct := by
  intro event hevent
  simp only [pactRun, List.mem_cons, List.not_mem_nil, or_false] at hevent
  rcases hevent with rfl | rfl | rfl | rfl | rfl <;> simp [RecordEvent.BetweenDistinct, MatchCommand.Allowed]

theorem treatyMachine_duel : TreatyMachine duelRecord pactRun :=
  treatyMachine duelRecord pactRun rfl pactRun_betweenDistinct

example : (pactRun.foldl recordStep duelRecord).treaties.map (fun treaty => (treaty.status, treaty.signedTick)) =
    [(.brokenByA, some 0), (.proposed, none)] := by decide +kernel

end IronCouncil
