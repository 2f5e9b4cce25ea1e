/-
Module: MandoForge.TaskGrant.Revocation
Purpose: A grant that is closed stays closed, and with it everything below it: no later
  call charges a grant with a closed grant on its chain, or is accepted in its name.
Trusted boundary: as in `Store`.
Main exports: ChainClosed, closed_chain_is_powerless
-/
import MandoForge.TaskGrant.AtomicCharge

namespace MandoForge

open Foundation

/-- A grant on the chain of the grant is not active. -/
def ChainClosed (store : MemoryStore) (id : Uuid) : Prop :=
  ∃ closed, OnParentChain store.taskGrants id closed.id ∧
    store.taskGrants.find? closed.id = some closed ∧ closed.status ≠ .active

/-- Of a grant there is the same parent, the same status if it is closed, and the same use of
its budgets if it is frozen. -/
structure KeepsGrant (frozen : Prop) (grant kept : TaskGrant) : Prop where
  parent : kept.parentGrantId = grant.parentGrantId
  status : grant.status ≠ .active → kept.status = grant.status
  used : frozen → ∀ counted : TaskGrantReservation, counted.used kept = counted.used grant

/-- The grant can do no more than at the start. -/
structure Powerless (start : MemoryStore) (id : Uuid) (store : MemoryStore) : Prop where
  closed : ChainClosed store id
  kept : ∀ grant, start.taskGrants.find? id = some grant →
    ∃ kept, store.taskGrants.find? id = some kept ∧ KeepsGrant True grant kept
  reservationRefused : ∀ now reservation,
    (reserveTaskGrantUsage now id reservation store).1.isOk = false
  toolCallRefused : ∀ now (toolCall : ToolCall), toolCall.taskGrantId = some id →
    (commitToolInvocationStart now toolCall store).1.isOk = false

/-! ### Closed chains -/

theorem OnParentChain.trans {grants : Table TaskGrant.id} {low middle high : Uuid}
    (first : OnParentChain grants low middle) (second : OnParentChain grants middle high) :
    OnParentChain grants low high := by
  induction first with
  | self => exact second
  | above found parent _ inductionHypothesis =>
      exact .above found parent (inductionHypothesis second)

theorem active_of_admitted {grant : TaskGrant} {reservation : TaskGrantReservation}
    {now : Timestamp} (admitted : taskGrantReservationDenial grant reservation now = none) :
    grant.status = .active := by
  by_contra closed
  simp [taskGrantReservationDenial, taskGrantRuntimeDenial, closed] at admitted

namespace ChainClosed

variable {store : MemoryStore} {reservation : TaskGrantReservation} {now : Timestamp}
  {grantId id : Uuid} {lineage : List TaskGrant}

/-- An admitted lineage passes no grant whose chain is closed. -/
theorem not_mem_of_admitted {check : TaskGrant → Except AppError Unit} {after : MemoryStore}
    (collected : taskGrantLineage store.taskGrants grantId = .ok lineage)
    (admission : admitLineage reservation now check store lineage = (.ok (), after)) :
    ∀ grant ∈ lineage, ¬ChainClosed store grant.id := by
  rintro grant member ⟨closed, onChain, found, notActive⟩
  have collects (other : Uuid) : OnParentChain store.taskGrants grantId other ↔
      other ∈ lineage.map TaskGrant.id := onParentChain_iff_of_loop collected
  have isAbove := (collects _).mp
    (((collects grant.id).mpr (List.mem_map_of_mem member)).trans onChain)
  obtain ⟨above, inLineage, same⟩ := List.mem_map.mp isAbove
  have stored := (taskGrantLineage_ok collected).1.stored above inLineage
  rw [same, found] at stored
  cases stored
  exact notActive (active_of_admitted (((admitLineage_cases admission).2 rfl).2 _ inLineage).1)

theorem not_admitted {check : TaskGrant → Except AppError Unit} {after : MemoryStore}
    (closed : ChainClosed store id)
    (collected : taskGrantLineage store.taskGrants id = .ok lineage)
    (admission : admitLineage reservation now check store lineage = (.ok (), after)) : False := by
  have own := (onParentChain_iff_of_loop collected).mp (.self id)
  obtain ⟨grant, member, rfl⟩ := List.mem_map.mp own
  exact not_mem_of_admitted collected admission grant member closed

theorem reservation_refused (closed : ChainClosed store id) :
    (reserveTaskGrantUsage now id reservation store).1.isOk = false := by
  unfold reserveTaskGrantUsage
  split
  · rfl
  · rename_i collected
    split
    · rfl
    · rename_i admission
      exact (closed.not_admitted collected admission).elim

theorem toolCall_refused (closed : ChainClosed store id) {toolCall : ToolCall}
    (ofGrant : toolCall.taskGrantId = some id) :
    (commitToolInvocationStart now toolCall store).1.isOk = false := by
  unfold commitToolInvocationStart
  rw [ofGrant]
  split
  · rfl
  · dsimp only
    split
    · rfl
    · split
      · rfl
      · rename_i collected
        split
        · rfl
        · rename_i admission
          exact (closed.not_admitted collected admission).elim

end ChainClosed

/-! ### What the operations keep -/

/-- From one store to the other every grant is kept. -/
def GrantsKept (frozen : Uuid → Prop) (before after : MemoryStore) : Prop :=
  ∀ id grant, before.taskGrants.find? id = some grant →
    ∃ kept, after.taskGrants.find? id = some kept ∧ KeepsGrant (frozen id) grant kept

namespace GrantsKept

variable {frozen : Uuid → Prop} {before between after store : MemoryStore}
  {reservation : TaskGrantReservation} {now : Timestamp} {grantId id : Uuid}
  {lineage : List TaskGrant}

theorem refl : GrantsKept frozen store store :=
  fun _ grant found => ⟨grant, found, rfl, fun _ => rfl, fun _ _ => rfl⟩

theorem trans (early : GrantsKept frozen before between)
    (late : GrantsKept frozen between after) : GrantsKept frozen before after := by
  intro id grant found
  obtain ⟨middle, isMiddle, first⟩ := early id grant found
  obtain ⟨kept, isKept, second⟩ := late id middle isMiddle
  refine ⟨kept, isKept, second.parent.trans first.parent, fun closed => ?_, fun isFrozen counted =>
    (second.used isFrozen counted).trans (first.used isFrozen counted)⟩
  rw [second.status (first.status closed ▸ closed), first.status closed]

theorem modify (change : TaskGrant → TaskGrant) (keeps : ∀ grant, (change grant).id = grant.id)
    (kept : ∀ grant, store.taskGrants.find? grantId = some grant →
      KeepsGrant (frozen grantId) grant (change grant)) :
    GrantsKept frozen store
      { store with taskGrants := store.taskGrants.modify grantId change keeps } := by
  intro id grant found
  by_cases same : id = grantId
  · subst same
    exact ⟨change grant, by simp [Table.find?_modify_same, found], kept grant found⟩
  · exact ⟨grant, by simp [Table.find?_modify_ne same, found], rfl, fun _ => rfl, fun _ _ => rfl⟩

theorem refuse {Result : Type} {denial : String × Bool} :
    GrantsKept frozen store
      (refuseGrant grantId denial store : Except AppError Result × MemoryStore).2 := by
  unfold refuseGrant
  dsimp only
  split
  · refine modify _ _ fun grant _ => ?_
    unfold TaskGrant.expireIfActive
    split
    · rename_i active
      exact ⟨rfl, (absurd active ·), fun _ counted => by cases counted <;> rfl⟩
    · exact ⟨rfl, fun _ => rfl, fun _ _ => rfl⟩
  · exact refl

theorem admitLineage {check : TaskGrant → Except AppError Unit} :
    GrantsKept frozen store (MandoForge.admitLineage reservation now check store lineage).2 := by
  induction lineage with
  | nil => exact refl
  | cons grant rest inductionHypothesis =>
      unfold MandoForge.admitLineage
      split
      · exact refuse
      · split
        · exact refl
        · exact inductionHypothesis

theorem chargeLineage (melted : ∀ grant ∈ lineage, ¬frozen grant.id) :
    GrantsKept frozen store (MandoForge.chargeLineage reservation lineage store).2 := by
  induction lineage generalizing store with
  | nil => exact refl
  | cons grant rest inductionHypothesis =>
      obtain ⟨notFrozen, melted⟩ := List.forall_mem_cons.mp melted
      unfold MandoForge.chargeLineage
      split
      · exact refl
      · split
        · exact refl
        · refine trans (modify _ _ fun other _ => ⟨?_, fun _ => ?_, (absurd · notFrozen)⟩)
            (inductionHypothesis melted)
          · cases reservation <;> rfl
          · cases reservation <;> rfl

theorem chargeToolCalls (melted : ∀ grant ∈ lineage, ¬frozen grant.id) :
    GrantsKept frozen store (MandoForge.chargeToolCalls lineage store) := by
  induction lineage generalizing store with
  | nil => exact refl
  | cons grant rest inductionHypothesis =>
      obtain ⟨notFrozen, melted⟩ := List.forall_mem_cons.mp melted
      exact trans (modify TaskGrant.addToolCall (fun _ => rfl) fun other _ =>
        ⟨rfl, fun _ => rfl, (absurd · notFrozen)⟩) (inductionHypothesis melted)

theorem reserve : GrantsKept (ChainClosed store) store
    (reserveTaskGrantUsage now grantId reservation store).2 := by
  unfold reserveTaskGrantUsage
  split
  · exact refl
  · rename_i lineage collected
    split
    · rename_i admission
      rw [← congrArg Prod.snd admission]
      exact admitLineage
    · rename_i between admission
      obtain ⟨rfl, -⟩ := (admitLineage_cases admission).2 rfl
      have charges :
          GrantsKept _ between (MandoForge.chargeLineage reservation lineage between).2 :=
        chargeLineage (ChainClosed.not_mem_of_admitted collected admission)
      split <;> rename_i charging <;> rw [charging] at charges
      · exact charges
      · split <;> exact charges

theorem commit {toolCall : ToolCall} : GrantsKept (ChainClosed store) store
    (commitToolInvocationStart now toolCall store).2 := by
  unfold commitToolInvocationStart
  split
  · exact refl
  · split
    · exact refl
    · split
      · split <;> exact refl
      · split
        · exact refl
        · rename_i lineage collected
          split
          · rename_i admission
            rw [← congrArg Prod.snd admission]
            exact admitLineage
          · rename_i between admission
            obtain ⟨rfl, -⟩ := (admitLineage_cases admission).2 rfl
            dsimp only
            split <;>
              exact chargeToolCalls (ChainClosed.not_mem_of_admitted collected admission)

theorem update {nextStatus : TaskGrantStatus} :
    GrantsKept frozen store (updateTaskGrantStatus grantId nextStatus store).2 := by
  unfold updateTaskGrantStatus
  split
  · exact refl
  · split
    · exact refl
    · rename_i grant found
      split
      · exact refl
      · split
        · exact refl
        · rename_i active
          refine modify _ _ fun other isOther => ⟨rfl, fun closed => ?_, fun _ counted => ?_⟩
          · cases found.symm.trans isOther
            exact absurd (not_not.mp active) closed
          · cases counted <;> rfl

/-- What both creations do once their checks have passed. -/
theorem insert {grant : TaskGrant} {answer : Except AppError Unit}
    (fresh : store.taskGrants.find? grant.id = none)
    (admission : admitUnderParent now grant store = (answer, between))
    (inserted : after.taskGrants = if answer.isOk then between.taskGrants.insert grant
      else between.taskGrants) : GrantsKept frozen store after := by
  have admits : GrantsKept frozen store (admitUnderParent now grant store).2 := by
    unfold admitUnderParent
    split
    · exact refl
    · split
      · exact refl
      · split
        · exact refuse
        · exact refl
  rw [admission] at admits
  intro id other found
  obtain ⟨kept, isKept, keeps⟩ := admits id other found
  refine ⟨kept, ?_, keeps⟩
  rw [inserted]
  split
  · rename_i admitted
    cases answer with
    | error error => cases admitted
    | ok _ =>
        obtain ⟨rfl, -⟩ := (admitUnderParent_cases admission).2 rfl
        have different : id ≠ grant.id := by
          rintro rfl
          cases fresh.symm.trans found
        exact (Table.find?_insert_ne fresh different).trans isKept
  · exact isKept

theorem perform (event : GrantEvent) :
    GrantsKept (ChainClosed store) store (event.perform store) := by
  unfold GrantEvent.perform
  cases event with
  | createTaskGrant now grant =>
      unfold createTaskGrant
      dsimp only
      split
      · exact refl
      · rename_i checked
        obtain ⟨⟨⟩, -, issuanceChecked⟩ := bind_eq_ok.mp checked
        split <;> rename_i admission <;>
          exact insert (taskGrantIssuanceChecks_ok issuanceChecked) admission rfl
  | createWorkflowStepRunWithTaskGrant now step grant =>
      unfold createWorkflowStepRunWithTaskGrant
      dsimp only
      split
      · exact refl
      · rename_i checked
        obtain ⟨⟨⟩, -, storeChecked⟩ := bind_eq_ok.mp checked
        split <;> rename_i admission <;>
          exact insert (stepGrantStoreChecks_ok storeChecked).2.2 admission rfl
  | reserveTaskGrantTurn | reserveTaskGrantToolCall => exact reserve
  | commitToolInvocationStart => exact commit
  | updateTaskGrantStatus => exact update
  | elsewhere => exact refl

theorem chainClosed (kept : GrantsKept frozen before after) (closed : ChainClosed before id) :
    ChainClosed after id := by
  have onChain {above : Uuid} (chain : OnParentChain before.taskGrants id above) :
      OnParentChain after.taskGrants id above := by
    clear closed
    induction chain with
    | self => exact .self _
    | above isStored parent _ inductionHypothesis =>
        obtain ⟨stored, found, keeps⟩ := kept _ _ isStored
        exact .above found (keeps.parent.trans parent) inductionHypothesis
  obtain ⟨grant, chain, found, notActive⟩ := closed
  obtain ⟨now, isNow, keeps⟩ := kept _ grant found
  have sameId := (Table.find?_eq_some.mp isNow).2
  refine ⟨now, ?_, sameId ▸ isNow, keeps.status notActive ▸ notActive⟩
  rw [sameId]
  exact onChain chain

end GrantsKept

/-- Whatever the calls are, once a grant is closed, it and the grants below it are never
charged again, and no call in their name is accepted. -/
theorem closed_chain_is_powerless (start : MemoryStore) (events : List GrantEvent) :
    HeldAlong GrantEvent.perform
      (fun store => ∀ id, ChainClosed start id → Powerless start id store) events start := by
  have along : HeldAlong GrantEvent.perform (GrantsKept (ChainClosed start) start) events
      start := by
    refine heldAlong_of_step ?_ .refl metAlong_trivial
    intro event store _ kept
    refine kept.trans fun id grant found => ?_
    obtain ⟨now, isNow, keeps⟩ := GrantsKept.perform event id grant found
    exact ⟨now, isNow, keeps.parent, keeps.status, fun closed =>
      keeps.used (kept.chainClosed closed)⟩
  refine along.mono fun store kept id closed => ?_
  have later := kept.chainClosed closed
  refine ⟨later, fun grant found => ?_, fun _ _ => later.reservation_refused,
    fun _ _ ofGrant => later.toolCall_refused ofGrant⟩
  obtain ⟨now, isNow, keeps⟩ := kept id grant found
  exact ⟨now, isNow, keeps.parent, keeps.status, fun _ => keeps.used closed⟩

end MandoForge
