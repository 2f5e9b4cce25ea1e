/-
Module: MandoForge.TaskGrant.AtomicCharge
Purpose: Whether a call that charges a grant and its ancestors charges all of them or none:
  it does unless an ancestor's counter overflows after the grants below it were charged,
  or a tool call without an event id is refused after its lineage was charged.
Trusted boundary: as in `Store`.
Main exports: GrantCounter, charging_atomic_iff
-/
import MandoForge.TaskGrant.Budget

namespace MandoForge

open Foundation

/-! ### Counters -/

/-- The counters that calls charge. -/
inductive GrantCounter where
  | turns
  | toolCalls
  | cost
deriving DecidableEq, Repr

structure GrantCounters where
  turnsUsed : Int
  toolCallsUsed : Int
  costUsdMicrosUsed : Int
deriving DecidableEq, Repr

def TaskGrant.counters (grant : TaskGrant) : GrantCounters where
  turnsUsed := grant.turnsUsed
  toolCallsUsed := grant.toolCallsUsed
  costUsdMicrosUsed := grant.costUsdMicrosUsed

namespace GrantCounter

def used : GrantCounter → TaskGrant → Int
  | .turns, grant => grant.turnsUsed
  | .toolCalls, grant => grant.toolCallsUsed
  | .cost, grant => grant.costUsdMicrosUsed

def setUsed : GrantCounter → Int → TaskGrant → TaskGrant
  | .turns, value, grant => { grant with turnsUsed := value }
  | .toolCalls, value, grant => { grant with toolCallsUsed := value }
  | .cost, value, grant => { grant with costUsdMicrosUsed := value }

/-- The bits of the counter besides its sign. -/
def bits : GrantCounter → Nat
  | .turns | .toolCalls => 31
  | .cost => 63

def overflow : GrantCounter → String
  | .turns => "task grant turn counter overflow"
  | .toolCalls => "task grant tool call counter overflow"
  | .cost => "task grant cost counter overflow"

/-- The counters with an amount added to one of them. -/
def add : GrantCounter → Int → GrantCounters → GrantCounters
  | .turns, amount, counters => { counters with turnsUsed := counters.turnsUsed + amount }
  | .toolCalls, amount, counters =>
      { counters with toolCallsUsed := counters.toolCallsUsed + amount }
  | .cost, amount, counters =>
      { counters with costUsdMicrosUsed := counters.costUsdMicrosUsed + amount }

/-- The amount can be added to the counter of the grant. -/
def fits (counter : GrantCounter) (amount : Int) (grant : TaskGrant) : Bool :=
  (checkedAdd counter.bits (counter.used grant) amount).isSome

/-- The grant with the amount added to its counter. -/
def charge (counter : GrantCounter) (amount : Int) (grant : TaskGrant) : TaskGrant :=
  counter.setUsed (counter.used grant + amount) grant

@[simp] theorem setUsed_id (counter : GrantCounter) (value : Int) (grant : TaskGrant) :
    (counter.setUsed value grant).id = grant.id := by
  cases counter <;> rfl

@[simp] theorem charge_id (counter : GrantCounter) (amount : Int) (grant : TaskGrant) :
    (counter.charge amount grant).id = grant.id :=
  counter.setUsed_id _ grant

theorem counters_charge (counter : GrantCounter) (amount : Int) (grant : TaskGrant) :
    (counter.charge amount grant).counters = counter.add amount grant.counters := by
  cases counter <;> rfl

theorem add_ne_self {counter : GrantCounter} {amount : Int} (nonzero : amount ≠ 0)
    (counters : GrantCounters) : counter.add amount counters ≠ counters := by
  intro same
  cases counter with
  | turns => exact nonzero (by simpa [add] using congrArg GrantCounters.turnsUsed same)
  | toolCalls => exact nonzero (by simpa [add] using congrArg GrantCounters.toolCallsUsed same)
  | cost => exact nonzero (by simpa [add] using congrArg GrantCounters.costUsdMicrosUsed same)

theorem checkedAdd_of_fits {counter : GrantCounter} {amount : Int} {grant : TaskGrant}
    (isFitting : counter.fits amount grant = true) :
    checkedAdd counter.bits (counter.used grant) amount = some (counter.used grant + amount) := by
  unfold fits checkedAdd at isFitting
  unfold checkedAdd
  split at isFitting
  next inRange => rw [if_pos inRange]
  next => cases isFitting

end GrantCounter

/-- The counter that a reservation charges. -/
def TaskGrantReservation.counter : TaskGrantReservation → GrantCounter
  | .turn => .turns
  | .toolCall => .toolCalls

/-! ### Charging a chain -/

/-- A charging loop: `checked_add` on one stored grant after the other. -/
def chargeChain (counter : GrantCounter) (amount : Int) :
    List Uuid → MemoryStore → Except AppError Unit × MemoryStore
  | [], store => (.ok (), store)
  | id :: rest, store =>
      match store.taskGrants.find? id with
      | none => (.error (.notFound "task grant not found"), store)
      | some stored =>
          match checkedAdd counter.bits (counter.used stored) amount with
          | none => (.error (.badRequest counter.overflow), store)
          | some value =>
              chargeChain counter amount rest { store with
                taskGrants := store.taskGrants.modify id (counter.setUsed value)
                  (by intro grant; simp) }

/-- The charged grant, as it is stored then. -/
def chargedGrant (grantId : Uuid) :
    Except AppError Unit × MemoryStore → Except AppError TaskGrant × MemoryStore
  | (.error error, store) => (.error error, store)
  | (.ok (), store) =>
      match store.taskGrants.find? grantId with
      | none => (.error (.notFound "task grant not found"), store)
      | some grant => (.ok grant, store)

def addTaskGrantCost (grantId : Uuid) (costUsdMicros : Int) (store : MemoryStore) :
    Except AppError TaskGrant × MemoryStore :=
  if costUsdMicros < 0 then
    (.error (.badRequest "task grant cost increment cannot be negative"), store)
  else if costUsdMicros = 0 then
    (okOr (store.taskGrants.find? grantId) (.notFound "task grant not found"), store)
  else
    match taskGrantLineage store.taskGrants grantId with
    | .error error => (.error error, store)
    | .ok lineage =>
        chargedGrant grantId (chargeChain .cost costUsdMicros (lineage.map TaskGrant.id) store)

theorem chargeLineage_eq_chargeChain (reservation : TaskGrantReservation)
    (lineage : List TaskGrant) (store : MemoryStore) :
    chargeLineage reservation lineage store =
      chargeChain reservation.counter 1 (lineage.map TaskGrant.id) store := by
  have bits : reservation.counter.bits = 31 := by cases reservation <;> rfl
  have used : reservation.counter.used = reservation.used := by cases reservation <;> rfl
  have setUsed : reservation.counter.setUsed = reservation.setUsed := by
    cases reservation <;> rfl
  have overflow : reservation.counter.overflow = reservation.overflow := by
    cases reservation <;> rfl
  induction lineage generalizing store with
  | nil => rfl
  | cons grant rest inductionHypothesis =>
      rw [chargeLineage, List.map_cons, chargeChain, bits, used, overflow]
      cases store.taskGrants.find? grant.id with
      | none => rfl
      | some stored =>
          simp only
          cases checkedAdd 31 (reservation.used stored) 1 with
          | none => rfl
          | some value =>
              simp only [inductionHypothesis, setGrantUsed, setUsed]

/-- The store with the amount added to one grant. -/
def chargeOne (counter : GrantCounter) (amount : Int) (store : MemoryStore) (id : Uuid) :
    MemoryStore :=
  { store with
    taskGrants := store.taskGrants.modify id (counter.charge amount) (by intro grant; simp) }

/-- The store with the amount added to some grants. -/
def chargeAll (counter : GrantCounter) (amount : Int) (ids : List Uuid) (store : MemoryStore) :
    MemoryStore :=
  ids.foldl (chargeOne counter amount) store

/-- The counters of a stored grant. -/
def countersOf (store : MemoryStore) (id : Uuid) : Option GrantCounters :=
  (store.taskGrants.find? id).map TaskGrant.counters

section charging

variable {counter : GrantCounter} {amount : Int} {store : MemoryStore}

theorem find?_chargeOne (charged id : Uuid) :
    (chargeOne counter amount store charged).taskGrants.find? id =
      if id = charged then (store.taskGrants.find? id).map (counter.charge amount)
      else store.taskGrants.find? id := by
  by_cases isCharged : id = charged
  · subst isCharged
    rw [if_pos rfl]
    simp only [chargeOne, Table.find?_modify_same]
  · rw [if_neg isCharged]
    simp only [chargeOne, Table.find?_modify_ne isCharged]

theorem find?_chargeAll {ids : List Uuid} (distinct : ids.Nodup) (id : Uuid) :
    (chargeAll counter amount ids store).taskGrants.find? id =
      if id ∈ ids then (store.taskGrants.find? id).map (counter.charge amount)
      else store.taskGrants.find? id := by
  induction ids generalizing store with
  | nil => rfl
  | cons first rest inductionHypothesis =>
      obtain ⟨notLater, distinct⟩ := List.nodup_cons.mp distinct
      rw [chargeAll, List.foldl_cons, ← chargeAll, inductionHypothesis distinct, find?_chargeOne]
      by_cases isFirst : id = first
      · subst isFirst
        rw [if_neg notLater, if_pos rfl, if_pos List.mem_cons_self]
      · simp only [List.mem_cons, isFirst, false_or, if_false]

theorem countersOf_chargeAll {ids : List Uuid} (distinct : ids.Nodup) (id : Uuid) :
    countersOf (chargeAll counter amount ids store) id =
      if id ∈ ids then (countersOf store id).map (counter.add amount)
      else countersOf store id := by
  rw [countersOf, find?_chargeAll distinct]
  split
  · rw [countersOf, Option.map_map, Option.map_map]
    exact Option.map_congr fun grant _ => counter.counters_charge amount grant
  · rfl

/-- Setting a counter to what was computed from the stored grant charges the grant. -/
theorem chargeOne_eq_setUsed {id : Uuid} {stored : TaskGrant}
    (found : store.taskGrants.find? id = some stored) :
    ({ store with
      taskGrants := store.taskGrants.modify id (counter.setUsed (counter.used stored + amount))
        (by intro grant; simp) } : MemoryStore) = chargeOne counter amount store id := by
  obtain ⟨isStored, storedId⟩ := Table.find?_eq_some.mp found
  have sameRows : store.taskGrants.modify id (counter.setUsed (counter.used stored + amount))
      (by intro grant; simp) = store.taskGrants.modify id (counter.charge amount)
      (by intro grant; simp) := by
    refine Table.ext_rows (List.map_congr_left fun grant member => ?_)
    by_cases isId : grant.id = id
    · obtain rfl := Table.eq_of_key_eq member isStored (isId.trans storedId.symm)
      rw [if_pos isId, if_pos isId]
      rfl
    · rw [if_neg isId, if_neg isId]
  rw [sameRows]
  rfl

/-- The loop goes past the grants whose counters fit. -/
theorem chargeChain_append {front rest : List Uuid} (distinct : front.Nodup)
    (fit : ∀ id ∈ front, ∃ grant, store.taskGrants.find? id = some grant ∧
      counter.fits amount grant = true) :
    chargeChain counter amount (front ++ rest) store =
      chargeChain counter amount rest (chargeAll counter amount front store) := by
  induction front generalizing store with
  | nil => rfl
  | cons first front inductionHypothesis =>
      obtain ⟨notLater, distinct⟩ := List.nodup_cons.mp distinct
      obtain ⟨⟨stored, found, isFitting⟩, fit⟩ := List.forall_mem_cons.mp fit
      have fitLater : ∀ id ∈ front, ∃ grant,
          (chargeOne counter amount store first).taskGrants.find? id = some grant ∧
            counter.fits amount grant = true := by
        intro id member
        have different : id ≠ first := fun same => notLater (same ▸ member)
        rw [find?_chargeOne, if_neg different]
        exact fit id member
      rw [List.cons_append, chargeChain, found]
      simp only [GrantCounter.checkedAdd_of_fits isFitting, chargeOne_eq_setUsed found]
      exact inductionHypothesis distinct fitLater

/-- The loop ends at the first grant whose counter does not fit. -/
theorem chargeChain_blocked {front rest : List Uuid} {blocked : TaskGrant}
    (distinct : (front ++ blocked.id :: rest).Nodup)
    (fit : ∀ id ∈ front, ∃ grant, store.taskGrants.find? id = some grant ∧
      counter.fits amount grant = true)
    (found : store.taskGrants.find? blocked.id = some blocked)
    (overflows : counter.fits amount blocked = false) :
    chargeChain counter amount (front ++ blocked.id :: rest) store =
      (.error (.badRequest counter.overflow), chargeAll counter amount front store) := by
  have frontDistinct := distinct.of_append_left
  have notCharged : blocked.id ∉ front := fun member =>
    (List.disjoint_of_nodup_append distinct) member List.mem_cons_self
  have none : checkedAdd counter.bits (counter.used blocked) amount = none := by
    simpa [GrantCounter.fits] using overflows
  rw [chargeChain_append frontDistinct fit, chargeChain, find?_chargeAll frontDistinct,
    if_neg notCharged, found]
  simp only [none]

/-- The grant at the head of the list fits, and one behind it does not. -/
def BlockedAbove (counter : GrantCounter) (amount : Int) : List TaskGrant → Prop
  | [] => False
  | own :: ancestors => counter.fits amount own = true ∧
      ∃ ancestor ∈ ancestors, counter.fits amount ancestor = false

/-- A loop over a stored lineage charges all of it, none of it, or, where it is blocked
above its head, a part with the head in it. -/
theorem chargeChain_cases {lineage : List TaskGrant} {top : Option Uuid}
    (stored : StoredLineage store.taskGrants lineage top) :
    (¬BlockedAbove counter amount lineage ∧
      ((chargeChain counter amount (lineage.map TaskGrant.id) store =
          (.ok (), chargeAll counter amount (lineage.map TaskGrant.id) store)) ∨
        ∃ error, chargeChain counter amount (lineage.map TaskGrant.id) store =
          (.error error, store))) ∨
    BlockedAbove counter amount lineage ∧ ∃ own ancestors error front,
      lineage = own :: ancestors ∧ (own.id :: front).Nodup ∧
        chargeChain counter amount (lineage.map TaskGrant.id) store =
          (.error error, chargeAll counter amount (own.id :: front) store) := by
  have fitFound {front : List TaskGrant} (inLineage : ∀ grant ∈ front, grant ∈ lineage)
      (fit : ∀ grant ∈ front, counter.fits amount grant = true) :
      ∀ id ∈ front.map TaskGrant.id, ∃ grant, store.taskGrants.find? id = some grant ∧
        counter.fits amount grant = true :=
    List.forall_mem_map.mpr fun grant member =>
      ⟨grant, stored.stored grant (inLineage grant member), fit grant member⟩
  by_cases allFit : ∀ grant ∈ lineage, counter.fits amount grant = true
  · refine .inl ⟨?_, .inl ?_⟩
    · cases lineage with
      | nil => exact id
      | cons own ancestors =>
          rintro ⟨-, ancestor, member, blocked⟩
          exact absurd (allFit ancestor (List.mem_cons_of_mem _ member)) (by simp [blocked])
    · have run := @chargeChain_append counter amount store (lineage.map TaskGrant.id) []
        stored.nodupIds (fitFound (fun _ member => member) allFit)
      rw [List.append_nil] at run
      exact run
  · -- the lineage up to the first grant that does not fit
    obtain ⟨front, blocked, rest, rfl, fit, overflows⟩ : ∃ front blocked rest,
        lineage = front ++ blocked :: rest ∧ (∀ grant ∈ front, counter.fits amount grant = true) ∧
          counter.fits amount blocked = false := by
      cases found : lineage.find? fun grant => !counter.fits amount grant with
      | none =>
          exact absurd (fun grant member => by simpa using List.find?_eq_none.mp found grant member)
            allFit
      | some blocked =>
          obtain ⟨overflows, front, rest, split, fit⟩ := List.find?_eq_some_iff_append.mp found
          exact ⟨front, blocked, rest, split, fun grant member => by simpa using fit grant member,
            by simpa using overflows⟩
    have run := @chargeChain_blocked counter amount store (front.map TaskGrant.id)
      (rest.map TaskGrant.id) blocked (by simpa using stored.nodupIds)
      (fitFound (fun _ member => List.mem_append_left _ member) fit)
      (stored.stored blocked (by simp)) overflows
    rw [← List.map_cons, ← List.map_append] at run
    cases front with
    | nil =>
        refine .inl ⟨fun ⟨fits, _⟩ => absurd fits (by simp [overflows]), .inr ⟨_, run⟩⟩
    | cons own front =>
        refine .inr ⟨⟨fit own List.mem_cons_self, blocked, by simp, overflows⟩, own, _, _,
          front.map TaskGrant.id, rfl, ?_, run⟩
        exact (List.map_append (f := TaskGrant.id) ▸ stored.nodupIds).of_append_left

end charging

/-! ### All or nothing -/

/-- The grant itself, its parent, the parent's parent, and so on. -/
inductive OnParentChain (grants : Table TaskGrant.id) : Uuid → Uuid → Prop
  | self (id : Uuid) : OnParentChain grants id id
  | above {id other parentId : Uuid} {grant : TaskGrant} (found : grants.find? id = some grant)
      (parent : grant.parentGrantId = some parentId) (onChain : OnParentChain grants parentId other) :
      OnParentChain grants id other

/-- Every grant on the chain has the amount more on its counter, and nothing else changed. -/
def ChargesChain (counter : GrantCounter) (amount : Int) (grantId : Uuid)
    (before after : MemoryStore) : Prop :=
  ∀ id, (OnParentChain before.taskGrants grantId id →
      countersOf after id = (countersOf before id).map (counter.add amount)) ∧
    (¬OnParentChain before.taskGrants grantId id → countersOf after id = countersOf before id)

def CountersKept (before after : MemoryStore) : Prop :=
  ∀ id, countersOf after id = countersOf before id

/-- A call that succeeds charges the chain of its grant, if it has one; a call that fails
charges nothing. -/
def AllOrNothing {Result : Type} (counter : GrantCounter) (amount : Int) (grantId : Option Uuid)
    (before : MemoryStore) : Except AppError Result × MemoryStore → Prop
  | (.ok _, after) =>
      match grantId with
      | some grantId => ChargesChain counter amount grantId before after
      | none => CountersKept before after
  | (.error _, after) => CountersKept before after

/-- What the loop over the parents collects is the chain. -/
theorem onParentChain_iff_of_loop {grants : Table TaskGrant.id} {fuel : Nat} {seen : List Uuid}
    {id other : Uuid} {lineage : List TaskGrant}
    (collected : lineageLoop grants fuel seen (some id) = .ok lineage) :
    OnParentChain grants id other ↔ other ∈ lineage.map TaskGrant.id := by
  induction fuel generalizing seen id lineage with
  | zero => cases collected
  | succ fuel inductionHypothesis =>
      rw [lineageLoop] at collected
      split at collected
      next => cases collected
      next =>
        cases found : grants.find? id with
        | none => rw [found] at collected; cases collected
        | some grant =>
            rw [found] at collected
            simp only at collected
            obtain ⟨-, rfl⟩ := Table.find?_eq_some.mp found
            cases above : lineageLoop grants fuel (grant.id :: seen) grant.parentGrantId with
            | error error => rw [above] at collected; cases collected
            | ok ancestors =>
                rw [above] at collected
                obtain rfl := Except.ok.inj collected
                rw [List.map_cons, List.mem_cons]
                constructor
                · intro onChain
                  cases onChain with
                  | self => exact .inl rfl
                  | above again parent onChain =>
                      obtain rfl := Option.some.inj (found.symm.trans again)
                      rw [parent] at above
                      exact .inr ((inductionHypothesis above).mp onChain)
                · rintro (rfl | isAbove)
                  · exact .self _
                  · cases parent : grant.parentGrantId with
                    | none =>
                        rw [parent, lineageLoop] at above
                        obtain rfl := Except.ok.inj above
                        cases isAbove
                    | some parentId =>
                        rw [parent] at above
                        exact .above found parent ((inductionHypothesis above).mpr isAbove)

section operations

variable {counter : GrantCounter} {amount : Int} {store : MemoryStore} {grantId : Uuid}
  {lineage : List TaskGrant}

theorem chargesChain_chargeAll
    (collected : taskGrantLineage store.taskGrants grantId = .ok lineage) :
    ChargesChain counter amount grantId store
      (chargeAll counter amount (lineage.map TaskGrant.id) store) := by
  have distinct := (taskGrantLineage_ok collected).1.nodupIds
  intro id
  rw [onParentChain_iff_of_loop collected, countersOf_chargeAll distinct]
  exact ⟨fun member => if_pos member, fun notMember => if_neg notMember⟩

theorem not_countersKept_chargeAll {ids : List Uuid} {own : TaskGrant} (nonzero : amount ≠ 0)
    (distinct : (own.id :: ids).Nodup) (found : store.taskGrants.find? own.id = some own) :
    ¬CountersKept store (chargeAll counter amount (own.id :: ids) store) := by
  intro kept
  have same := kept own.id
  rw [countersOf_chargeAll distinct, if_pos List.mem_cons_self, countersOf, found] at same
  exact GrantCounter.add_ne_self nonzero own.counters (Option.some.inj same)

theorem countersKept_expire : CountersKept store (expireActiveGrant grantId store) := by
  intro id
  rw [countersOf, countersOf]
  by_cases isExpired : id = grantId
  · subst isExpired
    simp only [expireActiveGrant, Table.find?_modify_same, Option.map_map]
    refine Option.map_congr fun grant _ => ?_
    simp only [Function.comp_apply, TaskGrant.expireIfActive]
    split <;> rfl
  · simp only [expireActiveGrant, Table.find?_modify_ne isExpired]

/-- The checks on a lineage charge nothing. -/
theorem countersKept_admitLineage {reservation : TaskGrantReservation} {now : Timestamp}
    {check : TaskGrant → Except AppError Unit} :
    CountersKept store (admitLineage reservation now check store lineage).2 := by
  induction lineage with
  | nil => exact fun _ => rfl
  | cons grant rest inductionHypothesis =>
      rw [admitLineage]
      cases taskGrantReservationDenial grant reservation now with
      | some denial =>
          simp only [refuseGrant]
          split
          · exact countersKept_expire
          · exact fun _ => rfl
      | none =>
          simp only
          cases check grant with
          | error error => exact fun _ => rfl
          | ok _ => exact inductionHypothesis

/-- Once the lineage is collected and admitted, the loop decides. -/
theorem chargedGrant_atomic_iff (nonzero : amount ≠ 0)
    (collected : taskGrantLineage store.taskGrants grantId = .ok lineage) :
    AllOrNothing counter amount (some grantId) store
        (chargedGrant grantId (chargeChain counter amount (lineage.map TaskGrant.id) store)) ↔
      ¬BlockedAbove counter amount lineage := by
  obtain ⟨stored, head, -⟩ := lineageLoop_ok collected
  rcases @chargeChain_cases counter amount store lineage none stored with
    ⟨notBlocked, run | ⟨error, run⟩⟩ |
      ⟨blocked, own, ancestors, error, front, isLineage, distinct, run⟩
  · refine iff_of_true ?_ notBlocked
    have isThere : ((chargeAll counter amount (lineage.map TaskGrant.id) store).taskGrants.find?
        grantId).isSome = true := by
      cases lineage with
      | nil => cases head
      | cons own ancestors =>
          obtain rfl := Option.some.inj head
          rw [find?_chargeAll stored.nodupIds, List.map_cons, if_pos List.mem_cons_self,
            stored.stored own List.mem_cons_self]
          rfl
    obtain ⟨grant, found⟩ := Option.isSome_iff_exists.mp isThere
    rw [run]
    simp only [chargedGrant, found]
    exact chargesChain_chargeAll collected
  · refine iff_of_true ?_ notBlocked
    rw [run]
    exact fun _ => rfl
  · refine iff_of_false ?_ (not_not_intro blocked)
    rw [run]
    exact not_countersKept_chargeAll nonzero distinct (stored.stored own (by simp [isLineage]))

/-- An admitted reservation overflows on an ancestor, but not on the grant itself. -/
def ReservationBlocked (now : Timestamp) (grantId : Uuid) (reservation : TaskGrantReservation)
    (store : MemoryStore) : Prop :=
  ∃ lineage, taskGrantLineage store.taskGrants grantId = .ok lineage ∧
    (∀ grant ∈ lineage, taskGrantReservationDenial grant reservation now = none) ∧
    BlockedAbove reservation.counter 1 lineage

theorem reserve_atomic_iff {now : Timestamp} {reservation : TaskGrantReservation} :
    AllOrNothing reservation.counter 1 (some grantId) store
        (reserveTaskGrantUsage now grantId reservation store) ↔
      ¬ReservationBlocked now grantId reservation store := by
  rw [reserveTaskGrantUsage]
  cases collected : taskGrantLineage store.taskGrants grantId with
  | error error =>
      refine iff_of_true (fun _ => rfl) ?_
      rintro ⟨lineage, isCollected, -⟩
      cases collected.symm.trans isCollected
  | ok lineage =>
      have blocked_iff : ReservationBlocked now grantId reservation store ↔
          (∀ grant ∈ lineage, taskGrantReservationDenial grant reservation now = none) ∧
            BlockedAbove reservation.counter 1 lineage := by
        constructor
        · rintro ⟨other, isCollected, admitted⟩
          obtain rfl := Except.ok.inj (collected.symm.trans isCollected)
          exact admitted
        · exact fun admitted => ⟨lineage, collected, admitted⟩
      simp only
      cases admission : admitLineage reservation now (fun _ => .ok ()) store lineage with
      | mk answer after =>
          have kept := @countersKept_admitLineage store lineage reservation now fun _ => .ok ()
          rw [admission] at kept
          cases answer with
          | error error =>
              refine iff_of_true kept fun blocked => ?_
              have admits := @admitLineage_of_admitted _ _ store lineage (blocked_iff.mp blocked).1
              cases admission.symm.trans admits
          | ok _ =>
              obtain ⟨same, admitted⟩ := (admitLineage_cases admission).2 rfl
              have admitted : ∀ grant ∈ lineage,
                  taskGrantReservationDenial grant reservation now = none :=
                fun grant member => (admitted grant member).1
              rw [same, blocked_iff, and_iff_right admitted,
                ← chargedGrant_atomic_iff one_ne_zero collected, ← chargeLineage_eq_chargeChain]
              refine iff_of_eq (congrArg _ ?_)
              dsimp only
              cases chargeLineage reservation lineage store with
              | mk answer after => cases answer <;> rfl

/-- A positive cost overflows on an ancestor, but not on the grant itself. -/
def CostBlocked (grantId : Uuid) (costUsdMicros : Int) (store : MemoryStore) : Prop :=
  0 < costUsdMicros ∧ ∃ lineage, taskGrantLineage store.taskGrants grantId = .ok lineage ∧
    BlockedAbove .cost costUsdMicros lineage

theorem cost_atomic_iff {costUsdMicros : Int} :
    AllOrNothing .cost costUsdMicros (some grantId) store
        (addTaskGrantCost grantId costUsdMicros store) ↔
      ¬CostBlocked grantId costUsdMicros store := by
  rw [addTaskGrantCost, CostBlocked]
  by_cases negative : costUsdMicros < 0
  · rw [if_pos negative]
    exact iff_of_true (fun _ => rfl) fun blocked => absurd blocked.1 (by omega)
  · rw [if_neg negative]
    by_cases zero : costUsdMicros = 0
    · subst zero
      rw [if_pos rfl]
      refine iff_of_true ?_ fun blocked => absurd blocked.1 (lt_irrefl 0)
      cases store.taskGrants.find? grantId with
      | none => exact fun _ => rfl
      | some grant =>
          intro other
          refine ⟨fun _ => ?_, fun _ => rfl⟩
          have nothing : GrantCounter.cost.add 0 = id := by
            funext counters
            simp [GrantCounter.add]
          rw [nothing, Option.map_id]
          rfl
    · rw [if_neg zero]
      have positive : 0 < costUsdMicros := by omega
      cases collected : taskGrantLineage store.taskGrants grantId with
      | error error =>
          refine iff_of_true (fun _ => rfl) ?_
          rintro ⟨-, lineage, isCollected, -⟩
          cases isCollected
      | ok lineage =>
          rw [chargedGrant_atomic_iff zero collected]
          refine not_congr ⟨fun blocked => ⟨positive, lineage, rfl, blocked⟩, ?_⟩
          rintro ⟨-, other, isCollected, blocked⟩
          exact Except.ok.inj isCollected ▸ blocked

/-- A tool call without an event id passes every check on its session and its grants. -/
def RefusedAfterCharge (now : Timestamp) (toolCall : ToolCall) (store : MemoryStore) : Prop :=
  toolCall.eventId = none ∧
    (∃ session, store.sessions.find? toolCall.sessionId = some session ∧
      session.status ≠ .terminated ∧ session.status ≠ .failed) ∧
    ∃ grantId lineage, toolCall.taskGrantId = some grantId ∧
      taskGrantLineage store.taskGrants grantId = .ok lineage ∧
      ∀ grant ∈ lineage, taskGrantReservationDenial grant .toolCall now = none ∧
        toolCallGrantCheck store grant = .ok ()

theorem chargeToolCalls_eq_chargeAll :
    chargeToolCalls lineage store = chargeAll .toolCalls 1 (lineage.map TaskGrant.id) store := by
  rw [chargeAll, List.foldl_map]
  rfl

theorem admitLineage_of_checked {reservation : TaskGrantReservation} {now : Timestamp}
    {check : TaskGrant → Except AppError Unit}
    (admitted : ∀ grant ∈ lineage, taskGrantReservationDenial grant reservation now = none ∧
      check grant = .ok ()) :
    admitLineage reservation now check store lineage = (.ok (), store) := by
  induction lineage with
  | nil => rfl
  | cons grant rest inductionHypothesis =>
      obtain ⟨⟨allowed, checked⟩, admitted⟩ := List.forall_mem_cons.mp admitted
      simp only [admitLineage, allowed, checked]
      exact inductionHypothesis admitted

theorem commit_atomic_iff {now : Timestamp} {toolCall : ToolCall} :
    AllOrNothing .toolCalls 1 toolCall.taskGrantId store
        (commitToolInvocationStart now toolCall store) ↔
      ¬RefusedAfterCharge now toolCall store := by
  rw [commitToolInvocationStart]
  cases foundSession : store.sessions.find? toolCall.sessionId with
  | none =>
      refine iff_of_true (fun _ => rfl) ?_
      rintro ⟨-, ⟨session, isFound, -⟩, -⟩
      cases foundSession.symm.trans isFound
  | some session =>
      by_cases terminal : session.status = .terminated ∨ session.status = .failed
      · simp only [if_pos terminal]
        refine iff_of_true (fun _ => rfl) ?_
        rintro ⟨-, ⟨other, isFound, notTerminated, notFailed⟩, -⟩
        obtain rfl := Option.some.inj (foundSession.symm.trans isFound)
        exact terminal.elim notTerminated notFailed
      · simp only [if_neg terminal]
        cases isGrant : toolCall.taskGrantId with
        | none =>
            refine iff_of_true ?_ ?_
            · cases toolCall.eventId with
              | none => exact fun _ => rfl
              | some eventId => exact fun _ => rfl
            · rintro ⟨-, -, grantId, lineage, isSome, -⟩
              cases isGrant.symm.trans isSome
        | some grantId =>
            simp only
            cases collected : taskGrantLineage store.taskGrants grantId with
            | error error =>
                refine iff_of_true (fun _ => rfl) ?_
                rintro ⟨-, -, other, lineage, isSome, isCollected, -⟩
                obtain rfl := Option.some.inj (isGrant.symm.trans isSome)
                cases collected.symm.trans isCollected
            | ok lineage =>
                have refused_iff : RefusedAfterCharge now toolCall store ↔
                    toolCall.eventId = none ∧ ∀ grant ∈ lineage,
                      taskGrantReservationDenial grant .toolCall now = none ∧
                        toolCallGrantCheck store grant = .ok () := by
                  constructor
                  · rintro ⟨noEvent, -, other, others, isSome, isCollected, admitted⟩
                    obtain rfl := Option.some.inj (isGrant.symm.trans isSome)
                    obtain rfl := Except.ok.inj (collected.symm.trans isCollected)
                    exact ⟨noEvent, admitted⟩
                  · rintro ⟨noEvent, admitted⟩
                    exact ⟨noEvent, ⟨session, foundSession, not_or.mp terminal⟩, grantId, lineage,
                      isGrant, collected, admitted⟩
                simp only
                cases admission : admitLineage .toolCall now (toolCallGrantCheck store) store
                    lineage with
                | mk answer after =>
                    have kept := @countersKept_admitLineage store lineage .toolCall now
                      (toolCallGrantCheck store)
                    rw [admission] at kept
                    cases answer with
                    | error error =>
                        refine iff_of_true kept fun refused => ?_
                        have admits := @admitLineage_of_checked store lineage .toolCall now
                          (toolCallGrantCheck store) (refused_iff.mp refused).2
                        cases admission.symm.trans admits
                    | ok _ =>
                        obtain ⟨same, admitted⟩ := (admitLineage_cases admission).2 rfl
                        rw [same, refused_iff, and_iff_left admitted]
                        dsimp only
                        rw [chargeToolCalls_eq_chargeAll]
                        obtain ⟨stored, nonEmpty⟩ := taskGrantLineage_ok collected
                        cases toolCall.eventId with
                        | none =>
                            refine iff_of_false ?_ (not_not_intro rfl)
                            obtain ⟨own, ancestors, rfl⟩ := List.exists_cons_of_ne_nil nonEmpty
                            exact not_countersKept_chargeAll one_ne_zero stored.nodupIds
                              (stored.stored own List.mem_cons_self)
                        | some eventId =>
                            exact iff_of_true (chargesChain_chargeAll collected) (by simp)

/-- A call charges the whole chain or nothing exactly when no ancestor's counter overflows
behind a charged grant and no tool call is refused behind a charged lineage. -/
theorem charging_atomic_iff (now : Timestamp) (grantId : Uuid) (costUsdMicros : Int)
    (toolCall : ToolCall) (store : MemoryStore) :
    (AllOrNothing .turns 1 (some grantId) store (reserveTaskGrantTurn now grantId store) ↔
      ¬ReservationBlocked now grantId .turn store) ∧
    (AllOrNothing .toolCalls 1 (some grantId) store (reserveTaskGrantToolCall now grantId store) ↔
      ¬ReservationBlocked now grantId .toolCall store) ∧
    (AllOrNothing .cost costUsdMicros (some grantId) store
        (addTaskGrantCost grantId costUsdMicros store) ↔
      ¬CostBlocked grantId costUsdMicros store) ∧
    (AllOrNothing .toolCalls 1 toolCall.taskGrantId store
        (commitToolInvocationStart now toolCall store) ↔
      ¬RefusedAfterCharge now toolCall store) :=
  ⟨reserve_atomic_iff, reserve_atomic_iff, cost_atomic_iff, commit_atomic_iff⟩

end operations

/-! ### The two ways to charge a part -/

/-- A running session, and a grant below a root. -/
def chargeStore (rootTurns : Int) : MemoryStore :=
  { siblingStore rootTurns 0 0 with
    sessions := Table.empty.insert
      { id := 5, status := .running, agentId := 1, agentVersionId := none, environmentId := none } }

def eventlessCall : ToolCall where
  id := 8
  sessionId := 5
  eventId := none
  toolName := "shell"
  args := .object []
  taskGrantId := some 2
  normalizedArgsHash := none
  targetBinding := .null
  status := .running
  riskLevel := "low"
  result := none
  error := none

/-- Where the root's counter is at its end, a turn is refused and stays on the child.  A tool
call without an event id is refused and stays on the child and on the root. -/
theorem refused_charges_stay :
    (¬∀ now grantId store, AllOrNothing .turns 1 (some grantId) store
      (reserveTaskGrantTurn now grantId store)) ∧
    (¬∀ now toolCall store, AllOrNothing .toolCalls 1 toolCall.taskGrantId store
      (commitToolInvocationStart now toolCall store)) := by
  constructor
  · intro atomic
    have blocked : ReservationBlocked 0 2 .turn (chargeStore (2 ^ 31 - 1)) :=
      ⟨[siblingGrant 2 (some 1) 0, siblingGrant 1 none (2 ^ 31 - 1)], by decide +kernel,
        by decide +kernel, by decide +kernel, siblingGrant 1 none (2 ^ 31 - 1), by simp,
        by decide +kernel⟩
    have turn := @reserve_atomic_iff (chargeStore (2 ^ 31 - 1)) 2 0 .turn
    exact turn.mp (atomic 0 2 _) blocked
  · intro atomic
    have refused : RefusedAfterCharge 0 eventlessCall (chargeStore 0) :=
      ⟨rfl, ⟨_, rfl, by decide, by decide⟩, 2, [siblingGrant 2 (some 1) 0, siblingGrant 1 none 0],
        rfl, by decide +kernel, by decide +kernel⟩
    exact commit_atomic_iff.mp (atomic 0 eventlessCall _) refused

end MandoForge
