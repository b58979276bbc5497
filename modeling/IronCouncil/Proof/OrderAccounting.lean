import IronCouncil.Proof.Ledger
import IronCouncil.Proof.OrderEffects

/-!
# What becomes of an order

Every order of an envelope is accepted or rejected, once. A check that rejects an order leaves its loop as it was, so the accepted orders on their own pass the same checks in the same states, and a second validation accepts all of them.
-/

namespace IronCouncil

/-! ### One loop -/

/-- The accepted orders of a loop and its rejections, of one type, share out the indices of the submitted orders. -/
structure SharedOut {α β : Type} (orderType : OrderType) (accept : α → β) (submitted : List α) (accepted : List β)
    (rejected : List RejectedOrder) : Prop where
  once : ((rejected.filter (·.orderType = orderType)).map (·.orderIndex)).Nodup
  within : ∀ rejection ∈ rejected, rejection.orderType = orderType → rejection.orderIndex < submitted.length
  rest : accepted = (submitted.zipIdx.filter fun entry =>
    entry.2 ∉ (rejected.filter (·.orderType = orderType)).map (·.orderIndex)).map fun entry => accept entry.1

section Loop

variable {σ α : Type} {check : σ → Nat → α → Except RejectedOrder σ} {orderType : OrderType}

/-- The rejections of a check name their type and index. -/
def RejectsAs (orderType : OrderType) (check : σ → Nat → α → Except RejectedOrder σ) : Prop :=
  ∀ loopState index order rejection, check loopState index order = .error rejection →
    rejection.orderType = orderType ∧ rejection.orderIndex = index

theorem rejected_validateEach (hcheck : RejectsAs orderType check) (orders : List α) (index : Nat) (loopState : σ) :
    (∀ rejection ∈ (validateEach check index loopState orders).2.1, rejection.orderType = orderType ∧
      index ≤ rejection.orderIndex ∧ rejection.orderIndex < index + orders.length) ∧
    ((validateEach check index loopState orders).2.1.map (·.orderIndex)).Nodup := by
  induction orders generalizing index loopState with
  | nil => simp [validateEach]
  | cons order orders ih =>
      unfold validateEach
      split
      · rename_i rejection herror
        obtain ⟨htype, hindex⟩ := hcheck _ _ _ _ herror
        obtain ⟨hbounds, hnodup⟩ := ih (index + 1) loopState
        refine ⟨?_, ?_⟩
        · intro other hmem
          rcases List.mem_cons.1 hmem with rfl | hmem
          · simp [htype, hindex]
          · obtain ⟨hother, hlower, hupper⟩ := hbounds other hmem
            simp only [List.length_cons]
            exact ⟨hother, by omega, by omega⟩
        · rw [List.map_cons, List.nodup_cons]
          refine ⟨?_, hnodup⟩
          intro hmem
          obtain ⟨other, hother, hsame⟩ := List.mem_map.1 hmem
          have hlower := (hbounds other hother).2.1
          omega
      · rename_i next hok
        obtain ⟨hbounds, hnodup⟩ := ih (index + 1) next
        refine ⟨?_, hnodup⟩
        intro other hmem
        obtain ⟨hother, hlower, hupper⟩ := hbounds other hmem
        simp only [List.length_cons]
        exact ⟨hother, by omega, by omega⟩

theorem accepted_validateEach (hcheck : RejectsAs orderType check) (orders : List α) (index : Nat) (loopState : σ) :
    (validateEach check index loopState orders).1 = ((orders.zipIdx index).filter fun entry =>
      entry.2 ∉ (validateEach check index loopState orders).2.1.map (·.orderIndex)).map Prod.fst := by
  induction orders generalizing index loopState with
  | nil => rfl
  | cons order orders ih =>
      -- the indices from here on are larger than this one
      have hlater : ∀ {next : σ} {rejection : RejectedOrder},
          rejection ∈ (validateEach check (index + 1) next orders).2.1 → index ≠ rejection.orderIndex := by
        intro next rejection hmem
        have hlower := ((rejected_validateEach hcheck orders (index + 1) next).1 rejection hmem).2.1
        omega
      unfold validateEach
      split
      · rename_i rejection herror
        obtain ⟨-, hindex⟩ := hcheck _ _ _ _ herror
        have hnot : ∀ entry ∈ orders.zipIdx (index + 1), entry.2 ≠ index := by
          intro entry hentry
          have hlower := List.le_snd_of_mem_zipIdx hentry
          omega
        rw [List.zipIdx_cons, List.filter_cons_of_neg (by simp [hindex])]
        dsimp only
        rw [ih (index + 1) loopState]
        congr 1
        apply List.filter_congr
        intro entry hentry
        simp [hindex, hnot entry hentry]
      · rename_i next hok
        have hkept : index ∉ (validateEach check (index + 1) next orders).2.1.map (·.orderIndex) := by
          intro hmem
          obtain ⟨rejection, hrejection, hsame⟩ := List.mem_map.1 hmem
          exact hlater hrejection hsame.symm
        rw [List.zipIdx_cons, List.filter_cons_of_pos (by simpa using hkept), List.map_cons]
        exact congrArg (order :: ·) (ih (index + 1) next)

/-- What passes a check passes it under any index. -/
def IndexFree (check : σ → Nat → α → Except RejectedOrder σ) : Prop :=
  ∀ loopState index index' order next, check loopState index order = .ok next →
    check loopState index' order = .ok next

theorem validateEach_of_error {loopState : σ} {index : Nat} {order : α} {rejection : RejectedOrder} (orders : List α)
    (h : check loopState index order = .error rejection) : validateEach check index loopState (order :: orders) =
      ((validateEach check (index + 1) loopState orders).1,
        rejection :: (validateEach check (index + 1) loopState orders).2.1,
        (validateEach check (index + 1) loopState orders).2.2) := by
  simp [validateEach, h]

theorem validateEach_of_ok {loopState next : σ} {index : Nat} {order : α} (orders : List α)
    (h : check loopState index order = .ok next) : validateEach check index loopState (order :: orders) =
      (order :: (validateEach check (index + 1) next orders).1, (validateEach check (index + 1) next orders).2.1,
        (validateEach check (index + 1) next orders).2.2) := by
  simp [validateEach, h]

/-- The accepted orders alone are accepted, and leave the loop in the same state. -/
theorem validateEach_accepted (hcheck : IndexFree check) (orders : List α) (index index' : Nat) (loopState : σ) :
    validateEach check index' loopState (validateEach check index loopState orders).1 =
      ((validateEach check index loopState orders).1, [], (validateEach check index loopState orders).2.2) := by
  induction orders generalizing index index' loopState with
  | nil => rfl
  | cons order orders ih =>
      cases hresult : check loopState index order with
      | error rejection =>
          rw [validateEach_of_error orders hresult]
          exact ih (index + 1) index' loopState
      | ok next =>
          rw [validateEach_of_ok orders hresult]
          dsimp only
          rw [validateEach_of_ok _ (hcheck loopState index index' order next hresult), ih (index + 1) (index' + 1) next]

theorem validateEach_map {f : α → α} (hf : ∀ loopState index order, check loopState index (f order) = check loopState index order)
    (orders : List α) (index : Nat) (loopState : σ) :
    validateEach check index loopState (orders.map f) =
      ((validateEach check index loopState orders).1.map f, (validateEach check index loopState orders).2) := by
  induction orders generalizing index loopState with
  | nil => rfl
  | cons order orders ih =>
      rw [List.map_cons]
      unfold validateEach
      rw [hf]
      split
      · rw [ih]
      · rw [ih]
        rfl

theorem sharedOut_validateEach (hcheck : RejectsAs orderType check) (orders : List α) (loopState : σ) :
    SharedOut orderType id orders (validateEach check 0 loopState orders).1
      (validateEach check 0 loopState orders).2.1 := by
  obtain ⟨hbounds, hnodup⟩ := rejected_validateEach hcheck orders 0 loopState
  have hall : (validateEach check 0 loopState orders).2.1.filter (·.orderType = orderType) =
      (validateEach check 0 loopState orders).2.1 := by
    apply List.filter_eq_self.2
    intro rejection hmem
    exact decide_eq_true (hbounds rejection hmem).1
  refine ⟨?_, ?_, ?_⟩
  · rw [hall]
    exact hnodup
  · intro rejection hmem _
    have hupper := (hbounds rejection hmem).2.2
    omega
  · rw [hall]
    exact accepted_validateEach hcheck orders 0 loopState

end Loop

/-! ### The four checks -/

section Checks

variable (state : MatchState) (playerId : String)

theorem validateMovementOrder_rejects {adjacency : OrdDict String (List String)} {index : Nat} {order : MovementOrder}
    {rejection : RejectedOrder}
    (h : validateMovementOrder state adjacency playerId index order = some rejection) :
    rejection.orderType = .movement ∧ rejection.orderIndex = index := by
  unfold validateMovementOrder at h
  grind

theorem checkMovement_rejects (adjacency : OrdDict String (List String)) :
    RejectsAs .movement (checkMovement state adjacency playerId) := by
  intro seen index order rejection h
  unfold checkMovement at h
  split at h
  · cases h
    exact ⟨rfl, rfl⟩
  · split at h
    · rename_i hrejected
      cases h
      exact validateMovementOrder_rejects state playerId hrejected
    · cases h

theorem validateRecruitmentOrder_rejects : RejectsAs .recruitment (validateRecruitmentOrder state playerId) := by
  intro budget index order rejection h
  unfold validateRecruitmentOrder at h
  grind

theorem validateUpgradeOrder_rejects : RejectsAs .upgrade (validateUpgradeOrder state playerId) := by
  intro budget index order rejection h
  unfold validateUpgradeOrder at h
  grind

theorem checkUpgrade_rejects : RejectsAs .upgrade (checkUpgrade state playerId) := by
  intro loopState index order rejection h
  unfold checkUpgrade at h
  split at h
  · cases h
    exact ⟨rfl, rfl⟩
  · split at h
    · rename_i hrejected
      cases h
      exact validateUpgradeOrder_rejects state playerId _ _ _ _ hrejected
    · cases h

theorem validateTransferOrder_rejects (adjacency : OrdDict String (List String)) (sender : PlayerState) :
    RejectsAs .transfer (validateTransferOrder state adjacency playerId sender) := by
  intro budget index order rejection h
  unfold validateTransferOrder at h
  grind

theorem checkMovement_indexFree (adjacency : OrdDict String (List String)) :
    IndexFree (checkMovement state adjacency playerId) := by
  intro seen index index' order next h
  obtain ⟨hfresh, hvalid, rfl⟩ := checkMovement_eq_ok h
  have hvalid' : validateMovementOrder state adjacency playerId index' order = none := by
    unfold validateMovementOrder at hvalid ⊢
    grind
  unfold checkMovement
  rw [if_neg hfresh, hvalid']

theorem validateRecruitmentOrder_indexFree : IndexFree (validateRecruitmentOrder state playerId) := by
  intro budget index index' order next h
  unfold validateRecruitmentOrder at h ⊢
  grind

theorem validateUpgradeOrder_indexFree : IndexFree (validateUpgradeOrder state playerId) := by
  intro budget index index' order next h
  unfold validateUpgradeOrder at h ⊢
  grind

theorem checkUpgrade_indexFree : IndexFree (checkUpgrade state playerId) := by
  intro loopState index index' order next h
  obtain ⟨hfresh, hvalid, hseen⟩ := checkUpgrade_eq_ok h
  unfold checkUpgrade
  rw [if_neg hfresh, validateUpgradeOrder_indexFree state playerId loopState.1 index index' order next.1 hvalid, ← hseen]

theorem validateTransferOrder_indexFree (adjacency : OrdDict String (List String)) (sender : PlayerState) :
    IndexFree (validateTransferOrder state adjacency playerId sender) := by
  intro budget index index' order next h
  unfold validateTransferOrder at h ⊢
  grind

end Checks

/-! ### The envelope -/

section Envelope

variable {α β : Type} {orderType other : OrderType} {accept : α → β} {submitted : List α} {accepted : List β}

/-- The rejections of one loop. -/
def AllOf (orderType : OrderType) (rejected : List RejectedOrder) : Prop :=
  ∀ rejection ∈ rejected, rejection.orderType = orderType

theorem AllOf.filter_other {rejected : List RejectedOrder} (h : AllOf other rejected) (hne : other ≠ orderType) :
    rejected.filter (·.orderType = orderType) = [] := by
  apply List.filter_eq_nil_iff.2
  intro rejection hmem
  rw [h rejection hmem]
  simpa using hne

theorem allOf_validateEach {σ : Type} {check : σ → Nat → α → Except RejectedOrder σ} (hcheck : RejectsAs orderType check)
    (orders : List α) (loopState : σ) : AllOf orderType (validateEach check 0 loopState orders).2.1 :=
  fun rejection hmem => ((rejected_validateEach hcheck orders 0 loopState).1 rejection hmem).1

theorem allOf_rejectEach (reasonCode : ValidationReasonCode) (message : String) (orders : List α) :
    AllOf orderType (rejectEach orderType reasonCode message orders) := by
  intro rejection hmem
  obtain ⟨index, -, rfl⟩ := List.mem_map.1 hmem
  rfl

theorem sharedOut_rejectEach (reasonCode : ValidationReasonCode) (message : String) :
    SharedOut orderType accept submitted [] (rejectEach orderType reasonCode message submitted) := by
  have hindices : ((rejectEach orderType reasonCode message submitted).filter (·.orderType = orderType)).map
      (·.orderIndex) = List.range submitted.length := by
    rw [List.filter_eq_self.2 fun rejection hmem => decide_eq_true (allOf_rejectEach _ _ _ rejection hmem)]
    unfold rejectEach
    rw [List.map_map]
    exact List.map_id _
  refine ⟨?_, ?_, ?_⟩
  · rw [hindices]
    exact List.nodup_range
  · intro rejection hmem _
    obtain ⟨index, hindex, rfl⟩ := List.mem_map.1 hmem
    exact List.mem_range.1 hindex
  · rw [hindices, List.filter_eq_nil_iff.2]
    · rfl
    · intro entry hentry
      have hupper := List.snd_lt_of_mem_zipIdx hentry
      simpa using hupper

/-- Rejections of other types do not count. -/
theorem SharedOut.mono {rejected rejected' : List RejectedOrder}
    (h : SharedOut orderType accept submitted accepted rejected)
    (hsame : rejected'.filter (·.orderType = orderType) = rejected.filter (·.orderType = orderType)) :
    SharedOut orderType accept submitted accepted rejected' := by
  refine ⟨hsame ▸ h.once, ?_, hsame ▸ h.rest⟩
  intro rejection hmem htype
  have hfiltered : rejection ∈ rejected'.filter (·.orderType = orderType) :=
    List.mem_filter.2 ⟨hmem, decide_eq_true htype⟩
  rw [hsame] at hfiltered
  exact h.within rejection (List.mem_filter.1 hfiltered).1 htype

theorem SharedOut.map {γ : Type} {rejected : List RejectedOrder} (f : β → γ)
    (h : SharedOut orderType accept submitted accepted rejected) :
    SharedOut orderType (fun order => f (accept order)) submitted (accepted.map f) rejected := by
  refine ⟨h.once, h.within, ?_⟩
  rw [h.rest, List.map_map]
  rfl

/-- The orders of an envelope are shared out type by type. -/
structure EnvelopeSharedOut (playerId : String) (submitted : OrderBatch) (result : OrderValidationResult) : Prop where
  movements : SharedOut .movement id submitted.movements result.accepted.movements result.rejected
  recruitment : SharedOut .recruitment id submitted.recruitment result.accepted.recruitment result.rejected
  upgrades : SharedOut .upgrade id submitted.upgrades result.accepted.upgrades result.rejected
  transfers : SharedOut .transfer (fun order : TransferOrder => { order with sender := some playerId })
    submitted.transfers result.accepted.transfers result.rejected

theorem envelopeSharedOut_append {playerId : String} {submitted accepted : OrderBatch}
    {movements recruitment upgrades transfers : List RejectedOrder}
    (hmovements : SharedOut .movement id submitted.movements accepted.movements movements)
    (hrecruitment : SharedOut .recruitment id submitted.recruitment accepted.recruitment recruitment)
    (hupgrades : SharedOut .upgrade id submitted.upgrades accepted.upgrades upgrades)
    (htransfers : SharedOut .transfer (fun order : TransferOrder => { order with sender := some playerId })
      submitted.transfers accepted.transfers transfers)
    (hofMovements : AllOf .movement movements) (hofRecruitment : AllOf .recruitment recruitment)
    (hofUpgrades : AllOf .upgrade upgrades) (hofTransfers : AllOf .transfer transfers) :
    EnvelopeSharedOut playerId submitted ⟨accepted, movements ++ recruitment ++ upgrades ++ transfers⟩ where
  movements := by
    apply hmovements.mono
    simp [hofRecruitment.filter_other, hofUpgrades.filter_other, hofTransfers.filter_other]
  recruitment := by
    apply hrecruitment.mono
    simp [hofMovements.filter_other, hofUpgrades.filter_other, hofTransfers.filter_other]
  upgrades := by
    apply hupgrades.mono
    simp [hofMovements.filter_other, hofRecruitment.filter_other, hofTransfers.filter_other]
  transfers := by
    apply htransfers.mono
    simp [hofMovements.filter_other, hofRecruitment.filter_other, hofUpgrades.filter_other]

variable (envelope : OrderEnvelope) (state : MatchState) (mapDefinition : MapDefinition)

theorem envelopeSharedOut_rejectAllOrders (reasonCode : ValidationReasonCode) (message : String) :
    EnvelopeSharedOut envelope.playerId envelope.orders ⟨.empty, rejectAllOrders envelope reasonCode message⟩ :=
  envelopeSharedOut_append (sharedOut_rejectEach reasonCode message) (sharedOut_rejectEach reasonCode message)
    (sharedOut_rejectEach reasonCode message) (sharedOut_rejectEach reasonCode message)
    (allOf_rejectEach reasonCode message _) (allOf_rejectEach reasonCode message _)
    (allOf_rejectEach reasonCode message _) (allOf_rejectEach reasonCode message _)

theorem envelopeSharedOut_validateOrderEnvelope :
    EnvelopeSharedOut envelope.playerId envelope.orders (validateOrderEnvelope envelope state mapDefinition) := by
  unfold validateOrderEnvelope
  split
  · exact envelopeSharedOut_rejectAllOrders envelope _ _
  · split
    · exact envelopeSharedOut_rejectAllOrders envelope _ _
    · exact envelopeSharedOut_append
        (sharedOut_validateEach (checkMovement_rejects state _ _) _ _)
        (sharedOut_validateEach (validateRecruitmentOrder_rejects state _) _ _)
        (sharedOut_validateEach (checkUpgrade_rejects state _) _ _)
        ((sharedOut_validateEach (validateTransferOrder_rejects state _ _ _) _ _).map
          fun order : TransferOrder => { order with sender := some envelope.playerId })
        (allOf_validateEach (checkMovement_rejects state _ _) _ _)
        (allOf_validateEach (validateRecruitmentOrder_rejects state _) _ _)
        (allOf_validateEach (checkUpgrade_rejects state _) _ _)
        (allOf_validateEach (validateTransferOrder_rejects state _ _ _) _ _)

/-- A second validation, of the accepted orders, accepts them all. -/
theorem validateOrderEnvelope_accepted_again :
    validateOrderEnvelope { envelope with orders := (validateOrderEnvelope envelope state mapDefinition).accepted } state
      mapDefinition = ⟨(validateOrderEnvelope envelope state mapDefinition).accepted, []⟩ := by
  by_cases htick : envelope.tick = state.tick
  · cases hplayer : state.players.get? envelope.playerId with
    | none => simp [validateOrderEnvelope, htick, hplayer, rejectAllOrders, rejectEach, OrderBatch.empty]
    | some player =>
        have hsender : ∀ budget index (order : TransferOrder),
            validateTransferOrder state (buildAdjacencyIndex mapDefinition (some .land)) envelope.playerId player budget
              index { order with sender := some envelope.playerId } =
            validateTransferOrder state (buildAdjacencyIndex mapDefinition (some .land)) envelope.playerId player budget
              index order := fun _ _ _ => rfl
        simp only [validateOrderEnvelope, htick, hplayer, ne_eq, not_true_eq_false, if_false,
          validateEach_accepted (checkMovement_indexFree state envelope.playerId _),
          validateEach_accepted (validateRecruitmentOrder_indexFree state envelope.playerId),
          validateEach_accepted (checkUpgrade_indexFree state envelope.playerId), validateEach_map hsender,
          validateEach_accepted (validateTransferOrder_indexFree state envelope.playerId _ player), List.map_map,
          List.append_nil, Function.comp_def]
  · simp [validateOrderEnvelope, htick, rejectAllOrders, rejectEach, OrderBatch.empty]

/-- What validation makes of an envelope. -/
structure ExactAccounting : Prop where
  sharedOut : EnvelopeSharedOut envelope.playerId envelope.orders (validateOrderEnvelope envelope state mapDefinition)
  affordable : ∀ player, state.players.get? envelope.playerId = some player → ∀ resource,
    batchCost resource (validateOrderEnvelope envelope state mapDefinition).accepted ≤ player.resources.get resource
  armies_once : ((validateOrderEnvelope envelope state mapDefinition).accepted.movements.map (·.armyId)).Nodup
  targets_once : ((validateOrderEnvelope envelope state mapDefinition).accepted.upgrades.map fun order =>
    (order.city, order.track)).Nodup
  again : validateOrderEnvelope
      { envelope with orders := (validateOrderEnvelope envelope state mapDefinition).accepted } state mapDefinition =
    ⟨(validateOrderEnvelope envelope state mapDefinition).accepted, []⟩

/-- Every order is rejected or accepted, once; the accepted ones are affordable together, do not conflict, and stand on their own. -/
theorem validateOrderEnvelope_exact (hvalid : state.FieldsValid) : ExactAccounting envelope state mapDefinition where
  sharedOut := envelopeSharedOut_validateOrderEnvelope envelope state mapDefinition
  affordable := by
    intro player hplayer resource
    have hresources : player.resources.FieldsValid := hvalid.2.2 player (OrdDict.mem_values.2 ⟨_, hplayer⟩)
    have hbalance : 0 ≤ state.balance envelope.playerId resource := by
      rw [balance_of_get? hplayer]
      cases resource
      exacts [hresources.1, hresources.2.1, hresources.2.2]
    rw [← balance_of_get? hplayer]
    exact batchCost_accepted_le hbalance
  armies_once := accepted_armies_nodup envelope state mapDefinition
  targets_once := accepted_targets_nodup envelope state mapDefinition
  again := validateOrderEnvelope_accepted_again envelope state mapDefinition

end Envelope

/-- More than the first player can order: the army twice, three troops and eleven of ten money. -/
def duelSpree : OrderEnvelope where
  matchId := "duel"
  playerId := "p1"
  tick := 0
  orders :=
    { movements := [⟨"a1", "southampton"⟩, ⟨"a1", "southampton"⟩]
      recruitment := [⟨"london", 1, Nat.one_pos⟩, ⟨"london", 2, Nat.two_pos⟩]
      upgrades := []
      transfers := [⟨none, "p2", .money, 4, Nat.succ_pos 3⟩, ⟨none, "p2", .money, 7, by decide⟩] }

theorem validateOrderEnvelope_exact_duelSpree :
    (validateOrderEnvelope duelSpree duelState loadUk1900Map).rejected.map (fun rejection =>
      (rejection.orderType, rejection.orderIndex)) = [(.movement, 1), (.recruitment, 1), (.transfer, 1)] ∧
      ExactAccounting duelSpree duelState loadUk1900Map :=
  ⟨by decide +kernel, validateOrderEnvelope_exact duelSpree duelState loadUk1900Map (by decide)⟩

end IronCouncil
