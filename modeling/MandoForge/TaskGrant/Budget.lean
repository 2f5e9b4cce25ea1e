/-
Module: MandoForge.TaskGrant.Budget
Purpose: The budgets of task grants over whole runs of the grant store: what each
  operation does to the ledger of a counter, and the runs in which every counter
  stays within its limit and above its children.
Trusted boundary: operations on other tables may happen between any two
  operations on grants, with any effect there.
Main exports: budgetLedger, budgetsHeld_along_iff_leavesRoom
-/
import MandoForge.Foundation.BudgetLedger
import MandoForge.Foundation.Outcome
import MandoForge.Foundation.Runs
import MandoForge.TaskGrant.Store
import Mathlib.Data.List.TakeWhile

namespace MandoForge

open Foundation BudgetLedger

/-! ### The ledger of a counter -/

/-- A grant in the ledger of the counter that a reservation charges. -/
def budgetEntry (counted : TaskGrantReservation) (grant : TaskGrant) : BudgetEntry Uuid where
  id := grant.id
  parent := grant.parentGrantId
  limit := counted.limit grant
  used := counted.used grant

def budgetLedger (counted : TaskGrantReservation) (grants : Table TaskGrant.id) :
    BudgetLedger Uuid where
  rows := grants.rows.map (budgetEntry counted)
  nodupKeys := by
    rw [List.map_map]
    exact grants.nodupKeys

section ledger

variable {counted charged : TaskGrantReservation} {grants : Table TaskGrant.id}

theorem find?_budgetLedger (id : Uuid) : (budgetLedger counted grants).find? id =
    (grants.find? id).map (budgetEntry counted) := by
  simp only [Table.find?, budgetLedger, List.find?_map]
  rfl

theorem mem_budgetLedger {entry : BudgetEntry Uuid} :
    entry ∈ budgetLedger counted grants ↔ ∃ grant ∈ grants, budgetEntry counted grant = entry := by
  simp [Table.mem_iff, budgetLedger]

theorem budgetLedger_modify {id : Uuid} (change : TaskGrant → TaskGrant)
    (keeps : ∀ grant, (change grant).id = grant.id)
    (unchanged : ∀ grant, budgetEntry counted (change grant) = budgetEntry counted grant) :
    budgetLedger counted (grants.modify id change keeps) = budgetLedger counted grants :=
  Table.ext_rows (Table.map_modify keeps unchanged)

theorem budgetLedger_expire {id : Uuid} {store : MemoryStore} :
    budgetLedger counted (expireActiveGrant id store).taskGrants =
      budgetLedger counted store.taskGrants := by
  have unchanged : ∀ grant : TaskGrant,
      budgetEntry counted grant.expireIfActive = budgetEntry counted grant := by
    intro grant
    unfold TaskGrant.expireIfActive
    split
    · cases counted <;> rfl
    · rfl
  exact budgetLedger_modify _ TaskGrant.expireIfActive_id unchanged

theorem budgetLedger_insert {grant : TaskGrant} (fresh : grants.find? grant.id = none) :
    budgetLedger counted (grants.insert grant) =
      (budgetLedger counted grants).insert (budgetEntry counted grant) := by
  have freshEntry : (budgetLedger counted grants).find? (budgetEntry counted grant).id = none := by
    change (budgetLedger counted grants).find? grant.id = none
    simp [find?_budgetLedger, fresh]
  refine Table.ext_rows ?_
  rw [Table.rows_insert_of_fresh freshEntry]
  simp [budgetLedger, Table.rows_insert_of_fresh fresh]

/-- Adding one to the counter of a stored grant charges its entry. -/
theorem budgetLedger_increment {grant : TaskGrant} (stored : grants.find? grant.id = some grant)
    (change : TaskGrant → TaskGrant) (keeps : ∀ grant, (change grant).id = grant.id)
    (increments : change grant = charged.setUsed (charged.used grant + 1) grant) :
    budgetLedger counted (grants.modify grant.id change keeps) =
      if counted = charged then charge [grant.id] (budgetLedger counted grants)
      else budgetLedger counted grants := by
  have member := (Table.find?_eq_some.mp stored).1
  have atGrant : ∀ other ∈ grants, other.id = grant.id → other = grant := fun other isMember same =>
    Table.eq_of_key_eq isMember member same
  refine Table.ext_rows ?_
  have rowwise : ∀ other ∈ grants,
      budgetEntry counted (if other.id = grant.id then change other else other) =
        if counted = charged ∧ other.id = grant.id then
          { budgetEntry counted other with used := (budgetEntry counted other).used + 1 }
        else budgetEntry counted other := by
    intro other isMember
    by_cases same : other.id = grant.id
    · rw [atGrant other isMember same, if_pos rfl, increments]
      cases counted <;> cases charged <;> simp [budgetEntry, TaskGrantReservation.setUsed,
        TaskGrantReservation.used, TaskGrantReservation.limit]
    · simp [same]
  have rows : (grants.modify grant.id change keeps).rows.map (budgetEntry counted) =
      grants.rows.map fun other => if counted = charged ∧ other.id = grant.id then
          { budgetEntry counted other with used := (budgetEntry counted other).used + 1 }
        else budgetEntry counted other := by
    rw [Table.rows_modify, List.map_map]
    exact List.map_congr_left fun other isMember => rowwise other isMember
  change (grants.modify grant.id change keeps).rows.map (budgetEntry counted) = _
  rw [rows]
  by_cases sameCounter : counted = charged
  · simp only [sameCounter, true_and, if_true, charge, budgetLedger, List.map_map]
    refine List.map_congr_left fun other _ => ?_
    by_cases same : other.id = grant.id <;> simp [budgetEntry, same]
  · simp [sameCounter, budgetLedger]

end ledger

/-! ### Lineages -/

/-- The stored grants from a grant up to a root. -/
structure StoredLineage (grants : Table TaskGrant.id) (lineage : List TaskGrant)
    (top : Option Uuid) : Prop where
  stored : ∀ grant ∈ lineage, grants.find? grant.id = some grant
  nodupIds : (lineage.map TaskGrant.id).Nodup
  chain : lineage.IsChain fun lower upper => lower.parentGrantId = some upper.id
  last : ∀ grant, lineage.getLast? = some grant → grant.parentGrantId = top

section lineage

variable {grants : Table TaskGrant.id}

/-- What the loop collects: stored grants with new ids, linked to the root. -/
theorem lineageLoop_ok {fuel : Nat} {seen : List Uuid} {current : Option Uuid}
    {lineage : List TaskGrant}
    (collected : lineageLoop grants fuel seen current = .ok lineage) :
    StoredLineage grants lineage none ∧ lineage.head?.map TaskGrant.id = current ∧
      ∀ grant ∈ lineage, grant.id ∉ seen := by
  induction fuel generalizing seen current lineage with
  | zero =>
      cases current with
      | none =>
          cases collected
          exact ⟨⟨by simp, by simp, by simp, by simp⟩, by simp, by simp⟩
      | some id => simp [lineageLoop] at collected
  | succ fuel inductionHypothesis =>
      cases current with
      | none =>
          cases collected
          exact ⟨⟨by simp, by simp, by simp, by simp⟩, by simp, by simp⟩
      | some id =>
          by_cases again : id ∈ seen
          · simp [lineageLoop, again] at collected
          · cases found : grants.find? id with
            | none => simp [lineageLoop, again, found] at collected
            | some grant =>
                obtain ⟨-, rfl⟩ := Table.find?_eq_some.mp found
                simp only [lineageLoop, again, if_false, found] at collected
                cases above : lineageLoop grants fuel (grant.id :: seen) grant.parentGrantId with
                | error error => simp [above, Except.map] at collected
                | ok ancestors =>
                    simp only [above, Except.map, Except.ok.injEq] at collected
                    subst collected
                    obtain ⟨rest, head, unseen⟩ := inductionHypothesis above
                    refine ⟨⟨?_, ?_, ?_, ?_⟩, rfl, ?_⟩
                    · rintro other isMember
                      rcases List.mem_cons.mp isMember with rfl | later
                      · exact found
                      · exact rest.stored other later
                    · rw [List.map_cons, List.nodup_cons]
                      refine ⟨fun isAncestor => ?_, rest.nodupIds⟩
                      obtain ⟨ancestor, member, sameId⟩ := List.mem_map.mp isAncestor
                      exact unseen ancestor member (by simp [sameId])
                    · cases ancestors with
                      | nil => simp
                      | cons parent ancestors =>
                          exact List.isChain_cons_cons.mpr ⟨by simpa using head.symm, rest.chain⟩
                    · intro last isLast
                      cases ancestors with
                      | nil =>
                          obtain rfl : grant = last := by simpa using isLast
                          simpa using head.symm
                      | cons parent ancestors =>
                          exact rest.last last (by simpa using isLast)
                    · intro other isMember
                      rcases List.mem_cons.mp isMember with rfl | later
                      · exact again
                      · exact fun isSeen => unseen other later (List.mem_cons_of_mem _ isSeen)

theorem taskGrantLineage_ok {grantId : Uuid} {lineage : List TaskGrant}
    (collected : taskGrantLineage grants grantId = .ok lineage) :
    StoredLineage grants lineage none ∧ lineage ≠ [] := by
  obtain ⟨stored, head, -⟩ := lineageLoop_ok collected
  refine ⟨stored, fun empty => ?_⟩
  simp [empty] at head

/-- Where parents are older than their children no lineage has a cycle and none
outgrows the fuel: the rank of a grant bounds what its lineage needs. -/
theorem lineageLoop_total (climb : LinksClimb (budgetLedger .turn grants)) {fuel : Nat}
    {seen : List Uuid} {grant : TaskGrant} (member : grant ∈ grants)
    (enough : climb.forest.rank grant.id < fuel)
    (seenBelow : ∀ id ∈ seen, climb.forest.rank grant.id < climb.forest.rank id) :
    ∃ lineage, lineageLoop grants fuel seen (some grant.id) = .ok lineage := by
  induction fuel generalizing seen grant with
  | zero => exact absurd enough (Nat.not_lt_zero _)
  | succ fuel inductionHypothesis =>
      have unseen : grant.id ∉ seen := fun again => lt_irrefl _ (seenBelow _ again)
      simp only [lineageLoop, unseen, if_false, Table.find?_key member]
      cases isParent : grant.parentGrantId with
      | none => exact ⟨[grant], by simp [lineageLoop, Except.map]⟩
      | some parentId =>
          have entryMember : budgetEntry .turn grant ∈ budgetLedger .turn grants :=
            mem_budgetLedger.mpr ⟨grant, member, rfl⟩
          obtain ⟨⟨older, olderMember, isOlder⟩, rankLt⟩ := climb.parent entryMember isParent
          obtain ⟨parent, parentMember, rfl⟩ := mem_budgetLedger.mp olderMember
          subst isOlder
          have lower : climb.forest.rank parent.id < climb.forest.rank grant.id := rankLt
          have parentBelow : ∀ id ∈ grant.id :: seen,
              climb.forest.rank parent.id < climb.forest.rank id := by
            intro id isSeen
            rcases List.mem_cons.mp isSeen with rfl | earlier
            · exact lower
            · exact lower.trans (seenBelow id earlier)
          obtain ⟨ancestors, collected⟩ :=
            inductionHypothesis parentMember (by omega) parentBelow
          exact ⟨grant :: ancestors, by simp [budgetEntry, collected, Except.map]⟩

theorem taskGrantLineage_total (climb : LinksClimb (budgetLedger .turn grants))
    {grant : TaskGrant} (member : grant ∈ grants) :
    ∃ lineage, taskGrantLineage grants grant.id = .ok lineage := by
  refine lineageLoop_total climb member ?_ (by simp)
  have isMember : grant.id ∈ (budgetLedger .turn grants).rows.map BudgetEntry.id := by
    simp only [budgetLedger, List.map_map, List.mem_map]
    exact ⟨grant, member, rfl⟩
  have := List.idxOf_lt_length_of_mem isMember
  simp only [budgetLedger, List.length_map] at this
  change List.idxOf grant.id ((budgetLedger .turn grants).rows.map BudgetEntry.id) < _
  simp only [budgetLedger]
  omega

theorem StoredLineage.isLineage {lineage : List TaskGrant} {top : Option Uuid}
    {counted : TaskGrantReservation} (stored : StoredLineage grants lineage top) :
    IsLineage (budgetLedger counted grants) (lineage.map (budgetEntry counted)) top where
  members entry isEntry := by
    obtain ⟨grant, member, rfl⟩ := List.mem_map.mp isEntry
    exact mem_budgetLedger.mpr
      ⟨grant, (Table.find?_eq_some.mp (stored.stored grant member)).1, rfl⟩
  chain := by
    rw [List.isChain_map]
    exact stored.chain
  last entry isLast := by
    rw [List.getLast?_map, Option.map_eq_some_iff] at isLast
    obtain ⟨grant, grantLast, rfl⟩ := isLast
    exact stored.last grant grantLast

theorem StoredLineage.before {charged rest : List TaskGrant} {stop : TaskGrant}
    {top : Option Uuid} (stored : StoredLineage grants (charged ++ stop :: rest) top) :
    StoredLineage grants charged (some stop.id) where
  stored grant member := stored.stored grant (by simp [member])
  nodupIds := by
    have nodup := stored.nodupIds
    rw [List.map_append] at nodup
    exact (List.nodup_append'.mp nodup).1
  chain := (List.isChain_append.mp stored.chain).1
  last grant isLast := (List.isChain_append.mp stored.chain).2.2 grant isLast stop (by simp)

end lineage

/-! ### What each operation does to the ledgers -/

/-- The ledger after the grants of the ids were charged. -/
def chargedLedger (counted charged : TaskGrantReservation) (ids : List Uuid)
    (ledger : BudgetLedger Uuid) : BudgetLedger Uuid :=
  if counted = charged then charge ids ledger else ledger

section operations

variable {counted reservation : TaskGrantReservation} {now : Timestamp}
  {store after : MemoryStore}

theorem used_lt_limit_of_admitted {grant : TaskGrant}
    (admitted : taskGrantReservationDenial grant reservation now = none) {limit : Int}
    (isLimit : reservation.limit grant = some limit) : reservation.used grant < limit := by
  unfold taskGrantReservationDenial at admitted
  split at admitted
  · cases admitted
  · by_contra notBelow
    simp [isLimit, not_lt.mp notBelow] at admitted

theorem refuseGrant_cases {Result : Type} {grantId : Uuid} {denial : String × Bool}
    {answer : Except AppError Result} (refused : refuseGrant grantId denial store = (answer, after)) :
    (∀ counted, budgetLedger counted after.taskGrants = budgetLedger counted store.taskGrants) ∧
      ∃ error, answer = .error error := by
  cases refused
  refine ⟨fun counted => ?_, _, rfl⟩
  split
  · exact budgetLedger_expire
  · rfl

/-- Admission leaves the ledgers, and leaves the store when it succeeds. -/
theorem admitLineage_cases {check : TaskGrant → Except AppError Unit}
    {lineage : List TaskGrant} {answer : Except AppError Unit}
    (admission : admitLineage reservation now check store lineage = (answer, after)) :
    (∀ counted, budgetLedger counted after.taskGrants = budgetLedger counted store.taskGrants) ∧
      (answer = .ok () → after = store ∧
        ∀ grant ∈ lineage, taskGrantReservationDenial grant reservation now = none ∧
          check grant = .ok ()) := by
  induction lineage with
  | nil =>
      cases admission
      exact ⟨fun _ => rfl, fun _ => ⟨rfl, by simp⟩⟩
  | cons grant rest inductionHypothesis =>
      unfold admitLineage at admission
      split at admission
      · obtain ⟨same, error, refused⟩ := refuseGrant_cases admission
        exact ⟨same, fun admitted => by cases admitted.symm.trans refused⟩
      · rename_i allowed
        split at admission
        · cases admission
          exact ⟨fun _ => rfl, fun admitted => by cases admitted⟩
        · rename_i checked
          obtain ⟨same, admittedRest⟩ := inductionHypothesis admission
          refine ⟨same, fun admitted => ⟨(admittedRest admitted).1, ?_⟩⟩
          intro other member
          rcases List.mem_cons.mp member with rfl | later
          · exact ⟨allowed, checked⟩
          · exact (admittedRest admitted).2 other later

/-- The counter of the grant can be charged once more. -/
def counterFits (reservation : TaskGrantReservation) (grant : TaskGrant) : Bool :=
  (checkedAdd 31 (reservation.used grant) 1).isSome

/-- The grants behind a charged one are stored as they were. -/
theorem StoredLineage.tail {grant : TaskGrant} {rest : List TaskGrant} {top : Option Uuid}
    {grants : Table TaskGrant.id} (stored : StoredLineage grants (grant :: rest) top)
    (change : TaskGrant → TaskGrant) (keeps : ∀ grant, (change grant).id = grant.id) :
    StoredLineage (grants.modify grant.id change keeps) rest top where
  stored other member := by
    have different : other.id ≠ grant.id := fun same =>
      (List.nodup_cons.mp stored.nodupIds).1 (same ▸ List.mem_map_of_mem member)
    rw [Table.find?_modify_ne different]
    exact stored.stored other (List.mem_cons_of_mem _ member)
  nodupIds := (List.nodup_cons.mp stored.nodupIds).2
  chain := (List.isChain_cons.mp stored.chain).2
  last other isLast := by
    cases rest with
    | nil => simp at isLast
    | cons next rest => exact stored.last other (by simpa using isLast)

theorem chargedLedger_nil {charged : TaskGrantReservation} (ledger : BudgetLedger Uuid) :
    chargedLedger counted charged [] ledger = ledger := by
  unfold chargedLedger
  split
  · exact Table.ext_rows (by simp [charge])
  · rfl

theorem chargedLedger_cons {charged : TaskGrantReservation} {grant : TaskGrant}
    {rest : List TaskGrant} {ledger : BudgetLedger Uuid}
    (notRest : grant.id ∉ rest.map TaskGrant.id) :
    chargedLedger counted charged (rest.map TaskGrant.id)
        (chargedLedger counted charged [grant.id] ledger) =
      chargedLedger counted charged ((grant :: rest).map TaskGrant.id) ledger := by
  unfold chargedLedger
  split
  · exact charge_charge fun id isRest isGrant =>
      notRest (List.mem_singleton.mp isGrant ▸ isRest)
  · rfl

theorem chargeLineage_cons {grant stored : TaskGrant} {rest : List TaskGrant} {value : Int}
    (found : store.taskGrants.find? grant.id = some stored)
    (fits : checkedAdd 31 (reservation.used stored) 1 = some value) :
    chargeLineage reservation (grant :: rest) store =
      chargeLineage reservation rest (setGrantUsed reservation grant.id value store) := by
  rw [chargeLineage]
  simp only [found, fits]

/-- The charging loop charges the grants before the first counter that does not
fit any more. -/
theorem budgetLedger_chargeLineage {lineage : List TaskGrant} {top : Option Uuid}
    (stored : StoredLineage store.taskGrants lineage top) :
    budgetLedger counted (chargeLineage reservation lineage store).2.taskGrants =
      chargedLedger counted reservation
        ((lineage.takeWhile (counterFits reservation)).map TaskGrant.id)
        (budgetLedger counted store.taskGrants) := by
  induction lineage generalizing store with
  | nil => exact (chargedLedger_nil _).symm
  | cons grant rest inductionHypothesis =>
      have found := stored.stored grant (List.mem_cons_self ..)
      unfold chargeLineage
      simp only [found]
      cases fits : checkedAdd 31 (reservation.used grant) 1 with
      | none => simp [counterFits, fits, chargedLedger_nil]
      | some value =>
          have next : value = reservation.used grant + 1 := by
            unfold checkedAdd at fits
            split at fits
            · exact (Option.some.inj fits).symm
            · cases fits
          have notCharged : grant.id ∉
              (rest.takeWhile (counterFits reservation)).map TaskGrant.id := fun again =>
            (List.nodup_cons.mp stored.nodupIds).1
              (((List.takeWhile_sublist _).map _).mem again)
          have restStored := stored.tail (reservation.setUsed value) (by simp)
          have charged : budgetLedger counted
              (setGrantUsed reservation grant.id value store).taskGrants =
              chargedLedger counted reservation [grant.id]
                (budgetLedger counted store.taskGrants) :=
            budgetLedger_increment found _ (by simp) (next ▸ rfl)
          have restCharged : budgetLedger counted (chargeLineage reservation rest
              (setGrantUsed reservation grant.id value store)).2.taskGrants = _ :=
            inductionHypothesis restStored
          rw [List.takeWhile_cons, if_pos (by simp [counterFits, fits]),
            ← chargedLedger_cons notCharged, ← charged]
          exact restCharged

theorem budgetLedger_chargeToolCalls {lineage : List TaskGrant} {top : Option Uuid}
    (stored : StoredLineage store.taskGrants lineage top) :
    budgetLedger counted (chargeToolCalls lineage store).taskGrants =
      chargedLedger counted .toolCall (lineage.map TaskGrant.id)
        (budgetLedger counted store.taskGrants) := by
  induction lineage generalizing store with
  | nil => exact (chargedLedger_nil _).symm
  | cons grant rest inductionHypothesis =>
      have found := stored.stored grant (List.mem_cons_self ..)
      have restStored := stored.tail TaskGrant.addToolCall (fun _ => rfl)
      have charged : budgetLedger counted
          (store.taskGrants.modify grant.id TaskGrant.addToolCall) =
          chargedLedger counted .toolCall [grant.id]
            (budgetLedger counted store.taskGrants) :=
        budgetLedger_increment found TaskGrant.addToolCall (fun _ => rfl) rfl
      rw [← chargedLedger_cons (List.nodup_cons.mp stored.nodupIds).1, ← charged]
      exact inductionHypothesis restStored

/-! ### Runs of the grant store -/

/-- Every counter is within its limit and covers its children. -/
def BudgetsHeld (store : MemoryStore) : Prop :=
  ∀ counted, BudgetsHold (budgetLedger counted store.taskGrants)

/-- Every parent of a grant is an older grant. -/
def ParentsOlder (store : MemoryStore) : Prop :=
  ∀ counted, LinksClimb (budgetLedger counted store.taskGrants)

/-- If the reservation charges some grants of its lineage and stops at an
ancestor whose counter does not fit one more, the children of that ancestor have
used less than the ancestor. -/
def ReservationLeavesRoom (reservation : TaskGrantReservation) (now : Timestamp)
    (grantId : Uuid) (store : MemoryStore) : Prop :=
  ∀ charged stop rest,
    taskGrantLineage store.taskGrants grantId = .ok (charged ++ stop :: rest) →
    (∀ grant ∈ charged ++ stop :: rest,
      taskGrantReservationDenial grant reservation now = none) →
    charged ≠ [] → (∀ grant ∈ charged, counterFits reservation grant = true) →
    counterFits reservation stop = false →
      (budgetLedger reservation store.taskGrants).childrenUsed stop.id < reservation.used stop

/-- Charging the stored lineage of a counter keeps the budgets exactly when its
end has room. -/
theorem budgetsHeld_charged_iff (older : ParentsOlder store) (held : BudgetsHeld store)
    {lineage : List TaskGrant} {top : Option Uuid}
    (stored : StoredLineage store.taskGrants lineage top) (nonEmpty : lineage ≠ [])
    (admitted : ∀ grant ∈ lineage, taskGrantReservationDenial grant reservation now = none)
    (charged : ∀ counted, budgetLedger counted after.taskGrants =
      chargedLedger counted reservation (lineage.map TaskGrant.id)
        (budgetLedger counted store.taskGrants)) :
    BudgetsHeld after ↔ ∀ stop, top = some stop →
      (budgetLedger reservation store.taskGrants).childrenUsed stop <
        (budgetLedger reservation store.taskGrants).usedOf stop := by
  have budgetLeft : ∀ entry ∈ lineage.map (budgetEntry reservation), ∀ limit,
      entry.limit = some limit → entry.used < limit := by
    intro entry isEntry limit isLimit
    obtain ⟨grant, member, rfl⟩ := List.mem_map.mp isEntry
    exact used_lt_limit_of_admitted (admitted grant member) isLimit
  have sameIds : (lineage.map (budgetEntry reservation)).map BudgetEntry.id =
      lineage.map TaskGrant.id := by
    simp [budgetEntry, Function.comp_def]
  have exact' := budgetsHold_charge_iff (older reservation) (held reservation)
    (stored.isLineage) (by simpa using nonEmpty) budgetLeft
  rw [sameIds] at exact'
  rw [← exact']
  constructor
  · intro afterHeld
    have := afterHeld reservation
    rwa [charged, chargedLedger, if_pos rfl] at this
  · intro chargedHeld counted
    rw [charged, chargedLedger]
    split
    · rename_i same
      exact same ▸ chargedHeld
    · exact held counted

theorem budgetsHeld_of_same (held : BudgetsHeld store)
    (same : ∀ counted, budgetLedger counted after.taskGrants =
      budgetLedger counted store.taskGrants) : BudgetsHeld after :=
  fun counted => same counted ▸ held counted

theorem parentsOlder_of_same (older : ParentsOlder store)
    (same : ∀ counted, budgetLedger counted after.taskGrants =
      budgetLedger counted store.taskGrants) : ParentsOlder after :=
  fun counted => same counted ▸ older counted

theorem parentsOlder_of_charged {ids : List Uuid} (older : ParentsOlder store)
    (charged : ∀ counted, budgetLedger counted after.taskGrants =
      chargedLedger counted reservation ids (budgetLedger counted store.taskGrants)) :
    ParentsOlder after := by
  intro counted
  rw [charged, chargedLedger]
  split
  · exact linksClimb_charge (older counted)
  · exact older counted

theorem admitLineage_of_admitted {lineage : List TaskGrant}
    (admitted : ∀ grant ∈ lineage, taskGrantReservationDenial grant reservation now = none) :
    admitLineage reservation now (fun _ => .ok ()) store lineage = (.ok (), store) := by
  induction lineage with
  | nil => rfl
  | cons grant rest inductionHypothesis =>
      simp only [admitLineage, admitted grant (List.mem_cons_self ..)]
      exact inductionHypothesis fun other member => admitted other (List.mem_cons_of_mem _ member)

theorem reserve_state_of_admitted {grantId : Uuid} {lineage : List TaskGrant}
    (collected : taskGrantLineage store.taskGrants grantId = .ok lineage)
    (admitted : ∀ grant ∈ lineage, taskGrantReservationDenial grant reservation now = none) :
    (reserveTaskGrantUsage now grantId reservation store).2 =
      (chargeLineage reservation lineage store).2 := by
  simp only [reserveTaskGrantUsage, collected, admitLineage_of_admitted admitted]
  split
  · rename_i charging
    simp [charging]
  · rename_i charging
    split <;> simp [charging]

theorem reserve_of_admitted {grantId : Uuid} {lineage : List TaskGrant}
    (collected : taskGrantLineage store.taskGrants grantId = .ok lineage)
    (admitted : ∀ grant ∈ lineage, taskGrantReservationDenial grant reservation now = none) :
    budgetLedger counted (reserveTaskGrantUsage now grantId reservation store).2.taskGrants =
      chargedLedger counted reservation
        ((lineage.takeWhile (counterFits reservation)).map TaskGrant.id)
        (budgetLedger counted store.taskGrants) := by
  rw [reserve_state_of_admitted collected admitted]
  exact budgetLedger_chargeLineage (taskGrantLineage_ok collected).1

/-- Every other reservation leaves the ledgers. -/
theorem reserve_of_not_admitted {grantId : Uuid}
    (refused : ∀ lineage, taskGrantLineage store.taskGrants grantId = .ok lineage →
      ¬∀ grant ∈ lineage, taskGrantReservationDenial grant reservation now = none) :
    budgetLedger counted (reserveTaskGrantUsage now grantId reservation store).2.taskGrants =
      budgetLedger counted store.taskGrants := by
  unfold reserveTaskGrantUsage
  cases collected : taskGrantLineage store.taskGrants grantId with
  | error error => rfl
  | ok lineage =>
      simp only
      rcases admission : admitLineage reservation now (fun _ => .ok ()) store lineage with
        ⟨answer, after⟩
      obtain ⟨same, admittedAll⟩ := admitLineage_cases admission
      cases answer with
      | error error => exact same counted
      | ok _ =>
          exact absurd (fun grant member => ((admittedAll rfl).2 grant member).1)
            (refused lineage collected)

theorem takeWhile_eq_of_stop {fits : TaskGrant → Bool} {charged rest : List TaskGrant}
    {stop : TaskGrant} (chargedFit : ∀ grant ∈ charged, fits grant = true)
    (stops : fits stop = false) : (charged ++ stop :: rest).takeWhile fits = charged := by
  rw [List.takeWhile_append_of_pos chargedFit, List.takeWhile_cons, stops]
  simp

/-- An admitted reservation keeps the budgets exactly when it leaves room. -/
theorem admitted_budgetsHeld_iff {grantId : Uuid} {lineage : List TaskGrant}
    (older : ParentsOlder store) (held : BudgetsHeld store)
    (collected : taskGrantLineage store.taskGrants grantId = .ok lineage)
    (admitted : ∀ grant ∈ lineage, taskGrantReservationDenial grant reservation now = none) :
    BudgetsHeld (reserveTaskGrantUsage now grantId reservation store).2 ↔
      ReservationLeavesRoom reservation now grantId store := by
  obtain ⟨stored, nonEmpty⟩ := taskGrantLineage_ok collected
  have ledgers : ∀ counted, budgetLedger counted
      (reserveTaskGrantUsage now grantId reservation store).2.taskGrants = _ :=
    fun _ => reserve_of_admitted collected admitted
  have decomposition := List.takeWhile_append_dropWhile (p := counterFits reservation) (l := lineage)
  have chargedFit : ∀ grant ∈ lineage.takeWhile (counterFits reservation),
      counterFits reservation grant = true := fun _ => List.mem_takeWhile_imp
  cases behind : lineage.dropWhile (counterFits reservation) with
  | nil =>
      rw [behind, List.append_nil] at decomposition
      rw [decomposition] at ledgers chargedFit
      refine iff_of_true ((budgetsHeld_charged_iff older held stored nonEmpty admitted
        ledgers).mpr nofun) ?_
      intro charged stop rest found _ _ _ stops
      have isStop : stop ∈ lineage := by
        rw [collected] at found
        simp [Except.ok.inj found]
      simp [chargedFit stop isStop] at stops
  | cons stop rest =>
      rw [behind] at decomposition
      have stops : counterFits reservation stop = false := by
        have someLeft : lineage.dropWhile (counterFits reservation) ≠ [] := by simp [behind]
        simpa [behind] using List.head_dropWhile_not (counterFits reservation) someLeft
      have sameStop : ∀ charged' stop' rest',
          taskGrantLineage store.taskGrants grantId = .ok (charged' ++ stop' :: rest') →
          (∀ grant ∈ charged', counterFits reservation grant = true) →
          counterFits reservation stop' = false →
            charged' = lineage.takeWhile (counterFits reservation) ∧ stop' = stop := by
        intro charged' stop' rest' found fits' stops'
        have same : lineage = charged' ++ stop' :: rest' := by
          rw [collected] at found
          exact Except.ok.inj found
        have sameCharged : lineage.takeWhile (counterFits reservation) = charged' := by
          rw [same]
          exact takeWhile_eq_of_stop fits' stops'
        refine ⟨sameCharged.symm, ?_⟩
        rw [← decomposition, sameCharged] at same
        exact (List.cons.inj (List.append_cancel_left same)).1.symm
      by_cases noneCharged : lineage.takeWhile (counterFits reservation) = []
      · rw [noneCharged] at ledgers
        refine iff_of_true (budgetsHeld_of_same held fun counted => ?_) ?_
        · rw [ledgers counted]
          exact chargedLedger_nil _
        · intro charged' stop' rest' found _ someCharged fits' stops'
          exact absurd ((sameStop charged' stop' rest' found fits' stops').1.trans noneCharged)
            someCharged
      · have before : StoredLineage store.taskGrants
            (lineage.takeWhile (counterFits reservation)) (some stop.id) :=
          StoredLineage.before (decomposition ▸ stored)
        have admittedBefore : ∀ grant ∈ lineage.takeWhile (counterFits reservation),
            taskGrantReservationDenial grant reservation now = none := fun grant member =>
          admitted grant ((List.takeWhile_sublist _).mem member)
        have isStop : stop ∈ lineage := by
          rw [← decomposition]
          simp
        have stopUsed : (budgetLedger reservation store.taskGrants).usedOf stop.id =
            reservation.used stop := by
          have member := (Table.find?_eq_some.mp (stored.stored stop isStop)).1
          have entryMember : budgetEntry reservation stop ∈
              budgetLedger reservation store.taskGrants :=
            mem_budgetLedger.mpr ⟨stop, member, rfl⟩
          exact usedOf_id entryMember
        rw [budgetsHeld_charged_iff older held before noneCharged admittedBefore ledgers]
        constructor
        · intro room charged' stop' rest' found _ _ fits' stops'
          obtain ⟨-, rfl⟩ := sameStop charged' stop' rest' found fits' stops'
          rw [← stopUsed]
          exact room _ rfl
        · intro room _ isTop
          cases isTop
          rw [stopUsed]
          exact room _ stop rest (by rw [decomposition, collected])
            (by rw [decomposition]; exact admitted)
            noneCharged chargedFit stops

theorem reserve_budgetsHeld_iff {grantId : Uuid} (older : ParentsOlder store)
    (held : BudgetsHeld store) :
    BudgetsHeld (reserveTaskGrantUsage now grantId reservation store).2 ↔
      ReservationLeavesRoom reservation now grantId store := by
  by_cases admission : ∃ lineage, taskGrantLineage store.taskGrants grantId = .ok lineage ∧
      ∀ grant ∈ lineage, taskGrantReservationDenial grant reservation now = none
  · obtain ⟨lineage, collected, admitted⟩ := admission
    exact admitted_budgetsHeld_iff older held collected admitted
  · have refused : ∀ lineage, taskGrantLineage store.taskGrants grantId = .ok lineage →
        ¬∀ grant ∈ lineage, taskGrantReservationDenial grant reservation now = none :=
      fun lineage collected admitted => admission ⟨lineage, collected, admitted⟩
    refine iff_of_true (budgetsHeld_of_same held fun counted =>
      reserve_of_not_admitted refused) ?_
    intro charged stop rest collected admitted
    exact absurd admitted (refused _ collected)

theorem reserve_parentsOlder {grantId : Uuid} (older : ParentsOlder store) :
    ParentsOlder (reserveTaskGrantUsage now grantId reservation store).2 := by
  by_cases admission : ∃ lineage, taskGrantLineage store.taskGrants grantId = .ok lineage ∧
      ∀ grant ∈ lineage, taskGrantReservationDenial grant reservation now = none
  · obtain ⟨lineage, collected, admitted⟩ := admission
    exact parentsOlder_of_charged older fun _ => reserve_of_admitted collected admitted
  · exact parentsOlder_of_same older fun _ => reserve_of_not_admitted
      fun lineage collected admitted => admission ⟨lineage, collected, admitted⟩

/-! ### The other operations keep the budgets -/

/-- A tool call charges its whole lineage, which it checked first, or leaves the
ledgers. -/
theorem commit_cases {toolCall : ToolCall} :
    (∀ counted, budgetLedger counted
        (commitToolInvocationStart now toolCall store).2.taskGrants =
      budgetLedger counted store.taskGrants) ∨
    ∃ lineage, StoredLineage store.taskGrants lineage none ∧ lineage ≠ [] ∧
      (∀ grant ∈ lineage, taskGrantReservationDenial grant .toolCall now = none) ∧
      ∀ counted, budgetLedger counted
          (commitToolInvocationStart now toolCall store).2.taskGrants =
        chargedLedger counted .toolCall (lineage.map TaskGrant.id)
          (budgetLedger counted store.taskGrants) := by
  unfold commitToolInvocationStart
  split
  · exact .inl fun _ => rfl
  · split_ifs
    · exact .inl fun _ => rfl
    · split
      · left
        intro counted
        split <;> rfl
      · rename_i grantId _
        split
        · exact .inl fun _ => rfl
        · rename_i lineage collected
          obtain ⟨stored, nonEmpty⟩ := taskGrantLineage_ok collected
          split
          · rename_i error after admission
            exact .inl (admitLineage_cases admission).1
          · rename_i after admission
            obtain ⟨rfl, admitted⟩ := (admitLineage_cases admission).2 rfl
            refine .inr ⟨lineage, stored, nonEmpty,
              fun grant member => (admitted grant member).1, fun counted => ?_⟩
            simp only
            split <;> exact budgetLedger_chargeToolCalls stored

theorem commit_budgetsHeld {toolCall : ToolCall} (older : ParentsOlder store)
    (held : BudgetsHeld store) :
    BudgetsHeld (commitToolInvocationStart now toolCall store).2 := by
  rcases commit_cases with same | ⟨lineage, stored, nonEmpty, admitted, charged⟩
  · exact budgetsHeld_of_same held same
  · exact (budgetsHeld_charged_iff older held stored nonEmpty admitted charged).mpr nofun

theorem commit_parentsOlder {toolCall : ToolCall} (older : ParentsOlder store) :
    ParentsOlder (commitToolInvocationStart now toolCall store).2 := by
  rcases commit_cases with same | ⟨lineage, _, _, _, charged⟩
  · exact parentsOlder_of_same older same
  · exact parentsOlder_of_charged older charged

theorem update_budgetLedger {grantId : Uuid} {nextStatus : TaskGrantStatus} :
    budgetLedger counted (updateTaskGrantStatus grantId nextStatus store).2.taskGrants =
      budgetLedger counted store.taskGrants := by
  unfold updateTaskGrantStatus
  split_ifs
  · rfl
  · split
    · rfl
    · split_ifs
      · rfl
      · rfl
      · exact budgetLedger_modify (fun stored => { stored with status := nextStatus })
          (fun _ => rfl) fun _ => by cases counted <;> rfl

theorem admitUnderParent_cases {grant : TaskGrant} {answer : Except AppError Unit}
    (admission : admitUnderParent now grant store = (answer, after)) :
    (∀ counted, budgetLedger counted after.taskGrants = budgetLedger counted store.taskGrants) ∧
      (answer = .ok () → after = store ∧ ∀ parent, grant.parentGrantId = some parent →
        (store.taskGrants.find? parent).isSome = true) := by
  unfold admitUnderParent at admission
  split at admission
  · rename_i isRoot
    cases admission
    exact ⟨fun _ => rfl, fun _ => ⟨rfl, fun parent isParent => by simp [isRoot] at isParent⟩⟩
  · rename_i parentGrantId isChild
    split at admission
    · cases admission
      exact ⟨fun _ => rfl, fun admitted => by cases admitted⟩
    · rename_i parent found
      split at admission
      · obtain ⟨same, error, refused⟩ := refuseGrant_cases admission
        exact ⟨same, fun admitted => by cases admitted.symm.trans refused⟩
      · cases admission
        refine ⟨fun _ => rfl, fun _ => ⟨rfl, fun parent isParent => ?_⟩⟩
        rw [isChild] at isParent
        cases isParent
        simp [found]

theorem limit_pos_of_valid {grant : TaskGrant} (valid : validateTaskGrantBudgets grant = .ok ())
    {limit : Int} (isLimit : counted.limit grant = some limit) : 0 < limit := by
  by_contra notPositive
  have refused : (counted.limit grant).any (· ≤ 0) = true := by
    simp [isLimit, not_lt.mp notPositive]
  obtain ⟨_, limits, -⟩ := bind_eq_ok.mp valid
  rw [forM_eq_ok] at limits
  cases counted with
  | turn =>
      have checked := limits ("max_turns", grant.maxTurns) (by simp)
      simp only [TaskGrantReservation.limit] at refused
      simp [refused] at checked
  | toolCall =>
      have checked := limits ("max_tool_calls", grant.maxToolCalls) (by simp)
      simp only [TaskGrantReservation.limit] at refused
      simp [refused] at checked

/-- Issuing a fresh, unused grant with valid budgets under a stored parent keeps
the budgets and the order of the links. -/
theorem insert_budgetsHeld {grant : TaskGrant} (older : ParentsOlder store) (sameGrants : after.taskGrants = store.taskGrants.insert grant)
    (fresh : store.taskGrants.find? grant.id = none)
    (hasParent : ∀ parent, grant.parentGrantId = some parent →
      (store.taskGrants.find? parent).isSome = true)
    (valid : validateTaskGrantBudgets grant = .ok ()) :
    ((∀ counted : TaskGrantReservation, counted.used grant = 0) → BudgetsHeld store →
      BudgetsHeld after) ∧ ParentsOlder after := by
  have freshEntry : ∀ counted, (budgetLedger counted store.taskGrants).find?
      (budgetEntry counted grant).id = none := by
    intro counted
    change (budgetLedger counted store.taskGrants).find? grant.id = none
    simp [find?_budgetLedger, fresh]
  have parentEntry : ∀ counted parent, (budgetEntry counted grant).parent = some parent →
      ((budgetLedger counted store.taskGrants).find? parent).isSome = true := by
    intro counted parent isParent
    simpa [find?_budgetLedger] using hasParent parent isParent
  have inserted : ∀ counted, budgetLedger counted after.taskGrants =
      (budgetLedger counted store.taskGrants).insert (budgetEntry counted grant) := by
    intro counted
    rw [sameGrants, budgetLedger_insert fresh]
  constructor
  · intro unused held counted
    rw [inserted]
    exact budgetsHold_insert (older counted) (held counted) (freshEntry counted)
      (parentEntry counted) (unused counted) fun limit isLimit => limit_pos_of_valid valid isLimit
  · intro counted
    rw [inserted]
    exact linksClimb_insert (older counted) (freshEntry counted) (parentEntry counted)

theorem newTaskGrantChecks_ok {grant : TaskGrant} (checked : newTaskGrantChecks grant = .ok ()) :
    validateTaskGrantBudgets grant = .ok () ∧
      ∀ counted : TaskGrantReservation, counted.used grant = 0 := by
  unfold newTaskGrantChecks at checked
  obtain ⟨_, -, checked⟩ := bind_eq_ok.mp checked
  obtain ⟨⟨⟩, valid, checked⟩ := bind_eq_ok.mp checked
  refine ⟨valid, fun counted => ?_⟩
  have zero := guard_eq_ok.mp (guardThen_eq_ok.mp checked).2
  simp only [not_or, not_not] at zero
  cases counted with
  | turn => exact zero.1
  | toolCall => exact zero.2.1

theorem taskGrantIssuanceChecks_ok {grant : TaskGrant}
    (checked : taskGrantIssuanceChecks grant store = .ok ()) :
    store.taskGrants.find? grant.id = none := by
  obtain ⟨run, -, checked⟩ := bind_eq_ok.mp checked
  obtain ⟨_, -, checked⟩ := bind_eq_ok.mp checked
  simpa using guard_eq_ok.mp checked

theorem create_budgetsHeld {grant : TaskGrant} (older : ParentsOlder store) :
    (BudgetsHeld store → BudgetsHeld (createTaskGrant now grant store).2) ∧
      ParentsOlder (createTaskGrant now grant store).2 := by
  unfold createTaskGrant
  split
  · exact ⟨id, older⟩
  · rename_i checked
    obtain ⟨⟨⟩, newChecked, issuanceChecked⟩ := bind_eq_ok.mp checked
    obtain ⟨valid, unused⟩ := newTaskGrantChecks_ok newChecked
    split
    · rename_i error after admission
      have same := (admitUnderParent_cases admission).1
      exact ⟨(budgetsHeld_of_same · same), parentsOlder_of_same older same⟩
    · rename_i after admission
      obtain ⟨rfl, hasParent⟩ := (admitUnderParent_cases admission).2 rfl
      exact (insert_budgetsHeld older rfl (taskGrantIssuanceChecks_ok issuanceChecked)
        hasParent valid).imp_left (· unused)

theorem createStep_budgetsHeld {step : WorkflowStepRun} {grant : TaskGrant}
    (older : ParentsOlder store) :
    ((∀ counted : TaskGrantReservation, counted.used grant = 0) → BudgetsHeld store →
        BudgetsHeld (createWorkflowStepRunWithTaskGrant now step grant store).2) ∧
      ParentsOlder (createWorkflowStepRunWithTaskGrant now step grant store).2 := by
  unfold createWorkflowStepRunWithTaskGrant
  split
  · exact ⟨fun _ => id, older⟩
  · rename_i checked
    obtain ⟨⟨⟩, stepChecked, storeChecked⟩ := bind_eq_ok.mp checked
    split
    · rename_i error after admission
      have same := (admitUnderParent_cases admission).1
      exact ⟨fun _ => (budgetsHeld_of_same · same), parentsOlder_of_same older same⟩
    · rename_i after admission
      obtain ⟨rfl, hasParent⟩ := (admitUnderParent_cases admission).2 rfl
      exact insert_budgetsHeld older rfl (stepGrantStoreChecks_ok storeChecked).2.2
        hasParent (stepGrantChecks_ok stepChecked).1

end operations

/-! ### Runs of the grant store -/

/-- What can happen to the grant store: one of its operations, or anything on the
other tables. -/
inductive GrantEvent where
  | createTaskGrant (now : Timestamp) (grant : TaskGrant)
  | createWorkflowStepRunWithTaskGrant (now : Timestamp) (step : WorkflowStepRun)
      (grant : TaskGrant)
  | reserveTaskGrantTurn (now : Timestamp) (grantId : Uuid)
  | reserveTaskGrantToolCall (now : Timestamp) (grantId : Uuid)
  | commitToolInvocationStart (now : Timestamp) (toolCall : ToolCall)
  | updateTaskGrantStatus (grantId : Uuid) (nextStatus : TaskGrantStatus)
  | elsewhere (sessions : Table Session.id) (workflowRuns : Table WorkflowRun.id)
      (workflowStepRuns : Table WorkflowStepRun.id)

namespace GrantEvent

/-- The store after an event, whatever was answered. -/
def perform : GrantEvent → MemoryStore → MemoryStore
  | .createTaskGrant now grant, store => (MandoForge.createTaskGrant now grant store).2
  | .createWorkflowStepRunWithTaskGrant now step grant, store =>
      (MandoForge.createWorkflowStepRunWithTaskGrant now step grant store).2
  | .reserveTaskGrantTurn now grantId, store =>
      (MandoForge.reserveTaskGrantTurn now grantId store).2
  | .reserveTaskGrantToolCall now grantId, store =>
      (MandoForge.reserveTaskGrantToolCall now grantId store).2
  | .commitToolInvocationStart now toolCall, store =>
      (MandoForge.commitToolInvocationStart now toolCall store).2
  | .updateTaskGrantStatus grantId nextStatus, store =>
      (MandoForge.updateTaskGrantStatus grantId nextStatus store).2
  | .elsewhere sessions workflowRuns workflowStepRuns, store =>
      { store with sessions, workflowRuns, workflowStepRuns }

/-- A step run is created with a grant of zero counters. -/
def StartsUnused : GrantEvent → Prop
  | .createWorkflowStepRunWithTaskGrant _ _ grant =>
      ∀ counted : TaskGrantReservation, counted.used grant = 0
  | _ => True

/-- A reservation leaves room where it stops; other events stop nowhere. -/
def LeavesRoom : GrantEvent → MemoryStore → Prop
  | .reserveTaskGrantTurn now grantId, store => ReservationLeavesRoom .turn now grantId store
  | .reserveTaskGrantToolCall now grantId, store =>
      ReservationLeavesRoom .toolCall now grantId store
  | _, _ => True

end GrantEvent

theorem ParentsOlder.perform (older : ParentsOlder store) (event : GrantEvent) :
    ParentsOlder (event.perform store) := by
  cases event with
  | createTaskGrant now grant => exact (create_budgetsHeld older).2
  | createWorkflowStepRunWithTaskGrant now step grant =>
      exact (createStep_budgetsHeld older).2
  | reserveTaskGrantTurn now grantId => exact reserve_parentsOlder older
  | reserveTaskGrantToolCall now grantId => exact reserve_parentsOlder older
  | commitToolInvocationStart now toolCall => exact commit_parentsOlder older
  | updateTaskGrantStatus grantId nextStatus =>
      exact parentsOlder_of_same older fun _ => update_budgetLedger
  | elsewhere sessions workflowRuns workflowStepRuns => exact older

theorem perform_parentsOlder (event : GrantEvent) (store : MemoryStore)
    (_ : event.StartsUnused) (older : ParentsOlder store) (_ : BudgetsHeld store) :
    ParentsOlder (event.perform store) := older.perform event

theorem perform_budgetsHeld_iff (event : GrantEvent) (store : MemoryStore)
    (unused : event.StartsUnused) (older : ParentsOlder store) (held : BudgetsHeld store) :
    BudgetsHeld (event.perform store) ↔ event.LeavesRoom store := by
  cases event with
  | createTaskGrant now grant => exact iff_of_true ((create_budgetsHeld older).1 held) trivial
  | createWorkflowStepRunWithTaskGrant now step grant =>
      exact iff_of_true ((createStep_budgetsHeld older).1 unused held) trivial
  | reserveTaskGrantTurn now grantId => exact reserve_budgetsHeld_iff older held
  | reserveTaskGrantToolCall now grantId => exact reserve_budgetsHeld_iff older held
  | commitToolInvocationStart now toolCall =>
      exact iff_of_true (commit_budgetsHeld older held) trivial
  | updateTaskGrantStatus grantId nextStatus =>
      exact iff_of_true (budgetsHeld_of_same held fun _ => update_budgetLedger) trivial
  | elsewhere sessions workflowRuns workflowStepRuns => exact iff_of_true held trivial

/-- From a store without grants, the budgets hold in every state of a run exactly
when every reservation of the run leaves room where it stops. -/
theorem budgetsHeld_along_iff_leavesRoom (start : MemoryStore)
    (noGrants : start.taskGrants = Table.empty) (events : List GrantEvent)
    (unused : ∀ event ∈ events, event.StartsUnused) :
    HeldAlong GrantEvent.perform BudgetsHeld events start ↔
      MetAlong GrantEvent.perform GrantEvent.LeavesRoom events start := by
  have empty : ∀ counted, budgetLedger counted start.taskGrants = Table.empty := by
    intro counted
    rw [noGrants]
    rfl
  exact heldAlong_iff_metAlong perform_parentsOlder perform_budgetsHeld_iff unused
    (fun counted => empty counted ▸ linksClimb_empty)
    (fun counted => empty counted ▸ budgetsHold_empty)

/-- Every grant leads over stored parents to a root. -/
def LineagesFound (store : MemoryStore) : Prop :=
  ∀ grant ∈ store.taskGrants, ∃ lineage,
    taskGrantLineage store.taskGrants grant.id = .ok lineage ∧
      StoredLineage store.taskGrants lineage none

/-- In a run from a store without grants no parent goes missing, and no chain of parents comes
back to itself. -/
theorem every_lineage_found (start : MemoryStore) (noGrants : start.taskGrants = Table.empty)
    (events : List GrantEvent) : HeldAlong GrantEvent.perform LineagesFound events start := by
  have older : ParentsOlder start := by
    intro counted
    rw [noGrants]
    exact linksClimb_empty
  have along : HeldAlong GrantEvent.perform ParentsOlder events start := by
    refine heldAlong_of_step ?_ older metAlong_trivial
    intro event store _ older
    exact older.perform event
  refine along.mono fun store older grant member => ?_
  obtain ⟨lineage, collected⟩ := taskGrantLineage_total (older .turn) member
  exact ⟨lineage, collected, (taskGrantLineage_ok collected).1⟩

/-! ### An overflow below the root

Two children share a root without limits.  The first one is charged until its
counter, and the root's with it, is at the end of its range; the next turn of the
second child is refused at the root, after the child was charged. -/

def siblingGrant (id : Uuid) (parentGrantId : Option Uuid) (turnsUsed : Int) : TaskGrant where
  id := id
  workflowRunId := 1
  workflowStepRunId := none
  sessionId := none
  parentGrantId := parentGrantId
  granteeSessionId := none
  status := .active
  expiresAt := none
  maxTurns := none
  maxToolCalls := none
  maxRuntimeSeconds := none
  maxCostUsdMicros := none
  turnsUsed := turnsUsed
  toolCallsUsed := 0
  costUsdMicrosUsed := 0
  semanticScopes := emptyJsonObject
  memoryScope := emptyJsonObject
  toolScope := emptyJsonObject
  connectorScope := emptyJsonObject
  approvalPolicy := emptyJsonObject
  externalEffects := emptyJsonObject
  createdAt := 0

def grantlessStore : MemoryStore where
  sessions := Table.empty
  workflowRuns := Table.empty.insert
    { id := 1, status := .running, primarySessionId := 1, rootTaskGrantId := none,
      inputPayload := emptyJsonObject, runtimeDelegation := emptyJsonObject }
  workflowStepRuns := Table.empty
  taskGrants := Table.empty

/-- The store with a root and two children, and the turns each of them used. -/
def siblingStore (root first second : Int) : MemoryStore :=
  { grantlessStore with
    taskGrants :=
      { rows := [siblingGrant 1 none root, siblingGrant 2 (some 1) first,
          siblingGrant 3 (some 1) second]
        nodupKeys := by simp [siblingGrant] } }

def issueSiblings : List GrantEvent :=
  [.createTaskGrant 0 (siblingGrant 1 none 0), .createTaskGrant 0 (siblingGrant 2 (some 1) 0),
    .createTaskGrant 0 (siblingGrant 3 (some 1) 0)]

theorem siblings_lead_to_root : HeldAlong GrantEvent.perform LineagesFound issueSiblings
    grantlessStore := every_lineage_found _ rfl _

/-- Issue the grants, use `turns` turns of the first child and one of the second
child. -/
def overflowEvents (turns : Nat) : List GrantEvent :=
  issueSiblings ++ List.replicate turns (.reserveTaskGrantTurn 0 2) ++
    [.reserveTaskGrantTurn 0 3]

theorem run_issueSiblings :
    runEvents GrantEvent.perform issueSiblings grantlessStore = siblingStore 0 0 0 := by
  decide +kernel

theorem checkedAdd_one {turns : Nat} (fits : turns + 1 < 2 ^ 31) :
    checkedAdd 31 (turns : Int) 1 = some ((turns + 1 : Nat) : Int) := by
  have inRange : inSignedRange 31 ((turns : Int) + 1) = true := by
    unfold inSignedRange
    rw [decide_eq_true_iff]
    omega
  unfold checkedAdd
  rw [if_pos inRange]
  rfl

theorem reserve_first {turns : Nat} (fits : turns + 1 < 2 ^ 31) :
    (reserveTaskGrantTurn 0 2 (siblingStore turns turns 0)).2 =
      siblingStore (turns + 1 : Nat) (turns + 1 : Nat) 0 := by
  have collected : taskGrantLineage (siblingStore turns turns 0).taskGrants 2 =
      .ok [siblingGrant 2 (some 1) turns, siblingGrant 1 none turns] := rfl
  have admitted : ∀ grant ∈ [siblingGrant 2 (some 1) turns, siblingGrant 1 none turns],
      taskGrantReservationDenial grant .turn 0 = none := by
    intro grant member
    simp only [List.mem_cons, List.not_mem_nil, or_false] at member
    rcases member with rfl | rfl <;> rfl
  have chargeFirst : setGrantUsed .turn 2 (turns + 1 : Nat) (siblingStore turns turns 0) =
      siblingStore turns (turns + 1 : Nat) 0 := rfl
  have chargeRoot : setGrantUsed .turn 1 (turns + 1 : Nat)
      (siblingStore turns (turns + 1 : Nat) 0) =
        siblingStore (turns + 1 : Nat) (turns + 1 : Nat) 0 := rfl
  have foundFirst : (siblingStore turns turns 0).taskGrants.find?
      (siblingGrant 2 (some 1) turns).id = some (siblingGrant 2 (some 1) turns) := rfl
  have foundRoot : (siblingStore turns (turns + 1 : Nat) 0).taskGrants.find?
      (siblingGrant 1 none turns).id = some (siblingGrant 1 none turns) := rfl
  have fitsFirst : checkedAdd 31 (TaskGrantReservation.turn.used
      (siblingGrant 2 (some 1) turns)) 1 = some ((turns + 1 : Nat) : Int) :=
    checkedAdd_one fits
  have fitsRoot : checkedAdd 31 (TaskGrantReservation.turn.used
      (siblingGrant 1 none turns)) 1 = some ((turns + 1 : Nat) : Int) :=
    checkedAdd_one fits
  rw [reserveTaskGrantTurn, reserve_state_of_admitted collected admitted,
    chargeLineage_cons foundFirst fitsFirst]
  refine (congrArg (fun store => (chargeLineage .turn _ store).2) chargeFirst).trans ?_
  rw [chargeLineage_cons foundRoot fitsRoot]
  exact chargeRoot

theorem run_first {turns : Nat} (fits : turns < 2 ^ 31) :
    runEvents GrantEvent.perform (List.replicate turns (.reserveTaskGrantTurn 0 2))
      (siblingStore 0 0 0) = siblingStore turns turns 0 := by
  induction turns with
  | zero => rfl
  | succ turns inductionHypothesis =>
      rw [List.replicate_succ', runEvents_append, inductionHypothesis (by omega),
        runEvents_cons, runEvents_nil, GrantEvent.perform]
      exact reserve_first fits

theorem reserve_second_overflows :
    (reserveTaskGrantTurn 0 3 (siblingStore (2 ^ 31 - 1) (2 ^ 31 - 1) 0)).2 =
      siblingStore (2 ^ 31 - 1) (2 ^ 31 - 1) 1 := by
  decide +kernel

theorem overflowEvents_startUnused (turns : Nat) :
    ∀ event ∈ overflowEvents turns, event.StartsUnused := by
  intro event member
  rcases List.mem_append.mp member with earlier | last
  · rcases List.mem_append.mp earlier with issued | repeated
    · simp only [issueSiblings, List.mem_cons, List.not_mem_nil, or_false] at issued
      rcases issued with rfl | rfl | rfl <;> trivial
    · rw [List.eq_of_mem_replicate repeated]
      trivial
  · rw [List.mem_singleton.mp last]
    trivial

theorem reservationLeavesRoom_of_fits {reservation : TaskGrantReservation} {now : Timestamp}
    {grantId : Uuid} {store : MemoryStore}
    (fits : ∀ grant ∈ store.taskGrants.rows, counterFits reservation grant = true) :
    ReservationLeavesRoom reservation now grantId store := by
  intro charged stop rest collected _ _ _ stops
  have stored := (taskGrantLineage_ok collected).1.stored stop (by simp)
  have isStored : stop ∈ store.taskGrants := (Table.find?_eq_some.mp stored).1
  rw [fits stop isStored] at stops
  cases stops

/-- The budgets hold while both children use one turn each. -/
theorem first_turns_keep_budgets :
    HeldAlong GrantEvent.perform BudgetsHeld (overflowEvents 1) grantlessStore := by
  refine (budgetsHeld_along_iff_leavesRoom grantlessStore rfl _
    (overflowEvents_startUnused 1)).mpr ?_
  have firstTurn : (GrantEvent.reserveTaskGrantTurn 0 2).LeavesRoom (siblingStore 0 0 0) :=
    reservationLeavesRoom_of_fits (by decide +kernel)
  have secondTurn : (GrantEvent.reserveTaskGrantTurn 0 3).LeavesRoom (siblingStore 1 1 0) :=
    reservationLeavesRoom_of_fits (by decide +kernel)
  have afterFirst : (GrantEvent.reserveTaskGrantTurn 0 2).perform (siblingStore 0 0 0) =
      siblingStore 1 1 0 := by decide +kernel
  have issued := run_issueSiblings
  simp only [issueSiblings, runEvents_cons, runEvents_nil] at issued
  simp only [overflowEvents, issueSiblings, List.replicate_one, List.cons_append,
    List.nil_append, metAlong_cons, metAlong_nil, issued, afterFirst, and_true]
  exact ⟨trivial, trivial, trivial, firstTurn, secondTurn⟩

/-- From no grants at all, the run ends with children above their root. -/
theorem overflow_breaks_budgets :
    grantlessStore.taskGrants = Table.empty ∧
      (∀ event ∈ overflowEvents (2 ^ 31 - 1), event.StartsUnused) ∧
      ¬HeldAlong GrantEvent.perform BudgetsHeld (overflowEvents (2 ^ 31 - 1))
        grantlessStore := by
  refine ⟨rfl, overflowEvents_startUnused _, fun held => ?_⟩
  have last := held _ (List.prefix_refl _)
  rw [overflowEvents, runEvents_append, runEvents_append, run_issueSiblings,
    run_first (by omega)] at last
  have lastStore : runEvents GrantEvent.perform [.reserveTaskGrantTurn 0 3]
      (siblingStore (2 ^ 31 - 1 : Nat) (2 ^ 31 - 1 : Nat) 0) =
        siblingStore (2 ^ 31 - 1) (2 ^ 31 - 1) 1 := reserve_second_overflows
  rw [lastStore] at last
  have atRoot := (last .turn).coversChildren (budgetEntry .turn (siblingGrant 1 none (2 ^ 31 - 1)))
    (mem_budgetLedger.mpr ⟨_, by simp [Table.mem_iff, siblingStore], rfl⟩)
  revert atRoot
  decide +kernel

end MandoForge
