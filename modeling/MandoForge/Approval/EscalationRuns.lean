/-
Module: MandoForge.Approval.EscalationRuns
Purpose: The progress of the scheduled escalation of one approval over any run of the
  scheduler with manual escalations in between.  The evidence keeps only the last
  escalation, so a manual one, which names no rule, erases how far the rules got.
Trusted boundary: an identifier is parsed back from the text it is written as.
Main exports: escalateDueApproval_cases, escalations_progress
-/
import MandoForge.Approval.Escalation
import MandoForge.Foundation.Runs
import Mathlib.Data.Int.ConditionallyCompleteOrder

namespace MandoForge

open Foundation

/-! ### The rule that is due -/

theorem firstLeast_mem {rules : List ApprovalEscalationRule} {rule : ApprovalEscalationRule}
    (isLeast : firstLeast rules = some rule) : rule ∈ rules := by
  induction rules generalizing rule with
  | nil => cases isLeast
  | cons first rest inductionHypothesis =>
      rw [firstLeast] at isLeast
      cases ofRest : firstLeast rest with
      | none =>
          rw [ofRest] at isLeast
          cases isLeast
          exact List.mem_cons_self
      | some least =>
          simp only [ofRest] at isLeast
          split_ifs at isLeast
          · cases isLeast
            exact List.mem_cons_self
          · cases isLeast
            exact List.mem_cons_of_mem _ (inductionHypothesis ofRest)

theorem firstLeast_isSome {rules : List ApprovalEscalationRule} :
    (firstLeast rules).isSome ↔ ∃ rule, rule ∈ rules := by
  constructor
  · intro isSome
    obtain ⟨rule, isLeast⟩ := Option.isSome_iff_exists.mp isSome
    exact ⟨rule, firstLeast_mem isLeast⟩
  · rintro ⟨rule, member⟩
    cases rules with
    | nil => cases member
    | cons first rest =>
        rw [firstLeast]
        cases firstLeast rest with
        | none => rfl
        | some least => simp only; split_ifs <;> rfl

theorem mem_listApprovalEscalationRules {rules : Table ApprovalEscalationRule.id}
    {rule : ApprovalEscalationRule} : rule ∈ listApprovalEscalationRules rules ↔ rule ∈ rules :=
  (List.perm_insertionSort ..).mem_iff

theorem find?_listApprovalEscalationRules {rules : Table ApprovalEscalationRule.id}
    {rule : ApprovalEscalationRule} (member : rule ∈ rules) :
    (listApprovalEscalationRules rules).find? (fun other => decide (other.id = rule.id)) =
      some rule := by
  cases found : (listApprovalEscalationRules rules).find?
      (fun other => decide (other.id = rule.id)) with
  | none =>
      have differs := List.find?_eq_none.mp found rule
        (mem_listApprovalEscalationRules.mpr member)
      simp at differs
  | some other =>
      have sameId : other.id = rule.id := by simpa using List.find?_some found
      have isListed := mem_listApprovalEscalationRules.mp (List.mem_of_find?_eq_some found)
      rw [Table.eq_of_key_eq isListed member sameId]

theorem secondsSince_mono {earlier now later : Timestamp} (notBefore : now ≤ later) :
    secondsSince now earlier ≤ secondsSince later earlier := by
  exact Int.tdiv_le_tdiv (by decide) (Int.sub_le_sub_right notBefore earlier)

theorem ageSeconds_of_lt {createdAt now : Timestamp}
    (within : secondsSince now createdAt < 2 ^ 31) :
    ageSeconds createdAt now = max (secondsSince now createdAt) 0 := by
  unfold ageSeconds asI32
  rw [Int.bmod_eq_of_le] <;> omega

section

variable {parseUuid : String → Option Uuid} {rules : Table ApprovalEscalationRule.id}

theorem nextDueEscalationRule_spec {columns : ApprovalColumns} {now : Timestamp}
    {rule : ApprovalEscalationRule}
    (isNext : nextDueEscalationRule parseUuid columns (listApprovalEscalationRules rules) now =
      some rule) :
    rule ∈ rules ∧ ∀ order, previousOrder parseUuid (listApprovalEscalationRules rules)
      columns.evidence = some order → order < rule.orderIndex := by
  obtain ⟨isListed, isDue⟩ := List.mem_filter.mp (firstLeast_mem isNext)
  refine ⟨mem_listApprovalEscalationRules.mp isListed, fun order isPrevious => ?_⟩
  rw [ApprovalEscalationRule.isDue, isPrevious] at isDue
  simp only [Option.all_some, Bool.and_eq_true, decide_eq_true_eq] at isDue
  exact isDue.1.2

theorem nextDueEscalationRule_later {columns : ApprovalColumns}
    {listed : List ApprovalEscalationRule} {now later : Timestamp} (notBefore : now ≤ later)
    (within : secondsSince later columns.createdAt < 2 ^ 31)
    (isDue : (nextDueEscalationRule parseUuid columns listed now).isSome) :
    (nextDueEscalationRule parseUuid columns listed later).isSome := by
  have older := @secondsSince_mono columns.createdAt _ _ notBefore
  obtain ⟨rule, member⟩ := firstLeast_isSome.mp isDue
  obtain ⟨isListed, dueNow⟩ := List.mem_filter.mp member
  refine firstLeast_isSome.mpr ⟨rule, List.mem_filter.mpr ⟨isListed, ?_⟩⟩
  rw [ApprovalEscalationRule.isDue, Bool.and_eq_true, decide_eq_true_eq] at dueNow ⊢
  rw [ageSeconds_of_lt (older.trans_lt within)] at dueNow
  rw [ageSeconds_of_lt within]
  exact ⟨dueNow.1, by omega⟩

/-! ### What an escalation leaves in the evidence -/

variable {codec : RecordCodec}

theorem get_mergeApprovalEvidence {target : Json} {patchFields : List (String × Json)}
    {key : String} {value : Json} (distinct : (patchFields.map Prod.fst).Nodup)
    (member : (key, value) ∈ patchFields) :
    (mergeApprovalEvidence target (.object patchFields)).get key = some value :=
  Json.getField_insertFields distinct member

theorem previousRuleId_escalated (target : Json) (group : ApprovalGroup) (ruleId : Uuid)
    (reason escalatedBy : String) (escalatedAt : Timestamp) :
    previousRuleId parseUuid (mergeApprovalEvidence target
      (escalationPatch codec group (some ruleId) reason escalatedBy escalatedAt)) =
      parseUuid (Nat.repr ruleId) := by
  have patched : escalationPatch codec group (some ruleId) reason escalatedBy escalatedAt =
      .object [("approver_group_id", .ofUuid group.id),
        ("approver_group_name", .string group.name),
        ("escalation", .object [("escalated_at", .string (codec.printTimestamp escalatedAt)),
          ("escalated_by", .string escalatedBy), ("group_id", .ofUuid group.id),
          ("reason", .string reason), ("rule_id", .ofUuid ruleId)])] := rfl
  rw [previousRuleId, patched, get_mergeApprovalEvidence (by simp)
    (.tail _ (.tail _ (.head _)))]
  rfl

/-! ### What a call does to the evidence -/

/-- No evidence was touched. -/
def SameProgress (before after : EscalationState) : Prop :=
  after.columns = before.columns ∧ after.written = before.written

/-- The evidence of the approval, as it was read, got an escalation. -/
def WritesEscalation (codec : RecordCodec) (approval : PresentedApproval) (ruleId : Option Uuid)
    (before after : EscalationState) : Prop :=
  ∃ group reason escalatedBy escalatedAt,
    after.columns = Function.update before.columns approval.approval.id
      { before.columns approval.approval.id with
        evidence := mergeApprovalEvidence approval.columns.evidence
          (escalationPatch codec group ruleId reason escalatedBy escalatedAt) } ∧
    after.written = before.written ++ [⟨approval.approval.id, ruleId⟩]

theorem escalateApprovalRecord_cases (draws : EscalationDraws) (approval : PresentedApproval)
    (group : ApprovalGroup) (ruleId : Option Uuid) (reason escalatedBy actorType : String)
    (actorId : Option Uuid) (state : EscalationState) :
    SameProgress state (escalateApprovalRecord codec draws approval group ruleId reason
        escalatedBy actorType actorId state).2 ∨
      WritesEscalation codec approval ruleId state (escalateApprovalRecord codec draws approval
        group ruleId reason escalatedBy actorType actorId state).2 := by
  unfold escalateApprovalRecord updateApprovalEvidence
  cases state.store.approvals.find? approval.approval.id with
  | none => exact .inl ⟨rfl, rfl⟩
  | some kept =>
      refine .inr ⟨group, reason, escalatedBy, draws.escalatedAt, ?_⟩
      simp only
      split
      · exact ⟨rfl, rfl⟩
      · split <;> exact ⟨rfl, rfl⟩

theorem expireApprovalRecord_sameProgress (services : ExpiryServices) (approvalId : Uuid)
    (state : EscalationState) :
    SameProgress state (expireApprovalRecord codec services approvalId state).2 := by
  unfold expireApprovalRecord
  cases state.store.approvals.find? approvalId with
  | none => exact ⟨rfl, rfl⟩
  | some approval =>
      simp only
      split_ifs
      · exact ⟨rfl, rfl⟩
      · split
        · exact ⟨rfl, rfl⟩
        · split <;> exact ⟨rfl, rfl⟩

/-- A run writes at most one escalation for an approval, by the rule that is due. -/
theorem escalateDueApproval_cases (run : DueRun) (approval : PresentedApproval)
    (tally : DueRunTally) (state : EscalationState) :
    SameProgress state
        (escalateDueApproval codec parseUuid rules run approval tally state).2 ∨
      ∃ rule, nextDueEscalationRule parseUuid approval.columns
          (listApprovalEscalationRules rules) run.checkedAt = some rule ∧
        WritesEscalation codec approval (some rule.id) state
          (escalateDueApproval codec parseUuid rules run approval tally state).2 := by
  unfold escalateDueApproval
  split_ifs with isExpired
  · have same := @expireApprovalRecord_sameProgress codec run.toExpiryServices
      approval.approval.id state
    split <;> rename_i answered <;> rw [answered] at same <;> exact .inl same
  · cases isNext : nextDueEscalationRule parseUuid approval.columns
        (listApprovalEscalationRules rules) run.checkedAt with
    | none => exact .inl ⟨rfl, rfl⟩
    | some rule =>
        simp only
        cases getApprovalGroup rule.groupId state with
        | error error => exact .inl ⟨rfl, rfl⟩
        | ok group =>
            simp only
            split_ifs with isInactive
            · exact .inl ⟨rfl, rfl⟩
            · have written := @escalateApprovalRecord_cases codec
                (run.draws approval.approval.id) approval group (some rule.id)
                ("Scheduled escalation after " ++ toString rule.afterSeconds ++ " seconds")
                "system" "system" none state
              split <;> rename_i answered <;> rw [answered] at written
              · exact written.imp_right fun writes => ⟨rule, rfl, writes⟩
              · split <;> exact written.imp_right fun writes => ⟨rule, rfl, writes⟩

/-- The request goes through to the evidence. -/
def manualEscalates (groupId : Uuid) (request : ManualEscalation) (state : EscalationState) :
    Bool :=
  (state.store.approvals.find? request.approvalId).any (fun approval =>
      decide (approval.status = .pending) && !approvalIsExpiredAt approval request.now) &&
    (state.groups.find? groupId).any fun group => decide (group.status = "active")

theorem escalateApproval_cases (groupId : Uuid) (request : ManualEscalation)
    (state : EscalationState) :
    SameProgress state (escalateApproval codec rules (some groupId) request state).2 ∨
      (manualEscalates groupId request state = true ∧
        ∃ approval, approval.approval.id = request.approvalId ∧
          WritesEscalation codec approval none state
            (escalateApproval codec rules (some groupId) request state).2) := by
  unfold escalateApproval
  cases found : state.store.approvals.find? request.approvalId with
  | none => exact .inl ⟨rfl, rfl⟩
  | some approval =>
      simp only [manualTarget, getApprovalGroup]
      split_ifs with notPending isExpired
      · exact .inl ⟨rfl, rfl⟩
      · have same := @expireApprovalRecord_sameProgress codec request.toExpiryServices
          request.approvalId state
        split <;> rename_i answered <;> rw [answered] at same <;> exact .inl same
      · cases foundGroup : state.groups.find? groupId with
        | none => exact .inl ⟨rfl, rfl⟩
        | some group =>
            simp only [Except.map]
            split_ifs with isInactive
            · exact .inl ⟨rfl, rfl⟩
            · refine (escalateApprovalRecord_cases ..).imp_right fun writes => ⟨?_, _, ?_, writes⟩
              · rw [not_not] at notPending isInactive
                simp [manualEscalates, found, foundGroup, notPending, isExpired, isInactive]
              · exact (Table.find?_eq_some.mp found).2

end

/-! ### The progress of one approval -/

/-- The rules of the escalations of an approval, the oldest first. -/
def writtenFor (approvalId : Uuid) (state : EscalationState) : List (Option Uuid) :=
  (state.written.filter fun escalation => decide (escalation.approvalId = approvalId)).map
    WrittenEscalation.ruleId

/-- The rules that the scheduler has applied to the approval. -/
def appliedRules (rules : Table ApprovalEscalationRule.id) (approvalId : Uuid)
    (state : EscalationState) : List ApprovalEscalationRule :=
  (writtenFor approvalId state).filterMap fun ruleId => ruleId.bind rules.find?

/-- No rule was applied twice, and they were applied in their order. -/
def AppliedInOrder (rules : Table ApprovalEscalationRule.id) (approvalId : Uuid)
    (state : EscalationState) : Prop :=
  (appliedRules rules approvalId state).Nodup ∧
    (appliedRules rules approvalId state).Pairwise fun earlier later =>
      earlier.orderIndex < later.orderIndex

instance (rules : Table ApprovalEscalationRule.id) (approvalId : Uuid)
    (state : EscalationState) : Decidable (AppliedInOrder rules approvalId state) :=
  inferInstanceAs (Decidable (_ ∧ _))

section

variable (parseUuid : String → Option Uuid) (rules : Table ApprovalEscalationRule.id)
  (approvalId : Uuid)

/-- How far the rules got, as the evidence of the approval tells. -/
def recordedOrder (state : EscalationState) : Option Int :=
  previousOrder parseUuid (listApprovalEscalationRules rules) (state.columns approvalId).evidence

/-- The rules were applied in their order, none beyond the recorded one. -/
structure ProgressRecorded (state : EscalationState) : Prop where
  inOrder : (appliedRules rules approvalId state).Pairwise fun earlier later =>
    earlier.orderIndex < later.orderIndex
  notBeyond : ∀ rule ∈ appliedRules rules approvalId state,
    ∃ order, recordedOrder parseUuid rules approvalId state = some order ∧
      rule.orderIndex ≤ order

end

section

variable {parseUuid : String → Option Uuid} {rules : Table ApprovalEscalationRule.id}
  {approvalId : Uuid} {codec : RecordCodec} {before after : EscalationState}
  {approval : PresentedApproval}

theorem SameProgress.writtenFor (same : SameProgress before after) :
    writtenFor approvalId after = writtenFor approvalId before := by
  rw [MandoForge.writtenFor, same.2, MandoForge.writtenFor]

theorem WritesEscalation.columns_of_ne {ruleId : Option Uuid}
    (writes : WritesEscalation codec approval ruleId before after)
    (isOther : approval.approval.id ≠ approvalId) :
    after.columns approvalId = before.columns approvalId := by
  obtain ⟨_, _, _, _, changed, -⟩ := writes
  rw [changed, Function.update_of_ne (Ne.symm isOther)]

theorem WritesEscalation.writtenFor_of_ne {ruleId : Option Uuid}
    (writes : WritesEscalation codec approval ruleId before after)
    (isOther : approval.approval.id ≠ approvalId) :
    writtenFor approvalId after = writtenFor approvalId before := by
  obtain ⟨_, _, _, _, -, grown⟩ := writes
  simp [writtenFor, grown, isOther]

theorem WritesEscalation.writtenFor_same {ruleId : Option Uuid}
    (writes : WritesEscalation codec approval ruleId before after)
    (isSame : approval.approval.id = approvalId) :
    writtenFor approvalId after = writtenFor approvalId before ++ [ruleId] := by
  obtain ⟨_, _, _, _, -, grown⟩ := writes
  simp [writtenFor, grown, isSame]

theorem ProgressRecorded.congr (recorded : ProgressRecorded parseUuid rules approvalId before)
    (sameColumns : after.columns approvalId = before.columns approvalId)
    (sameWritten : writtenFor approvalId after = writtenFor approvalId before) :
    ProgressRecorded parseUuid rules approvalId after := by
  constructor
  · rw [appliedRules, sameWritten]
    exact recorded.inOrder
  · rw [appliedRules, sameWritten, recordedOrder, sameColumns]
    exact recorded.notBeyond

/-- A rule that goes further than the recorded one moves the progress to itself. -/
theorem ProgressRecorded.advance {rule : ApprovalEscalationRule}
    (parses : ∀ listed ∈ rules, parseUuid (Nat.repr listed.id) = some listed.id)
    (recorded : ProgressRecorded parseUuid rules approvalId before)
    (writes : WritesEscalation codec approval (some rule.id) before after)
    (isSame : approval.approval.id = approvalId) (member : rule ∈ rules)
    (isFurther : ∀ order, recordedOrder parseUuid rules approvalId before = some order →
      order < rule.orderIndex) :
    ProgressRecorded parseUuid rules approvalId after := by
  have applied : appliedRules rules approvalId after =
      appliedRules rules approvalId before ++ [rule] := by
    rw [appliedRules, writes.writtenFor_same isSame, List.filterMap_append]
    simp [Table.find?_key member, appliedRules]
  have nowRecorded : recordedOrder parseUuid rules approvalId after = some rule.orderIndex := by
    obtain ⟨_, _, _, _, changed, -⟩ := writes
    rw [recordedOrder, changed, isSame, Function.update_self, previousOrder,
      previousRuleId_escalated, parses rule member, Option.bind_some,
      find?_listApprovalEscalationRules member, Option.map_some]
  have isBelow : ∀ other ∈ appliedRules rules approvalId before,
      other.orderIndex < rule.orderIndex := by
    intro other isApplied
    obtain ⟨order, isRecorded, atMost⟩ := recorded.notBeyond other isApplied
    exact atMost.trans_lt (isFurther order isRecorded)
  constructor
  · rw [applied, List.pairwise_append]
    refine ⟨recorded.inOrder, List.pairwise_singleton .., fun other isApplied last isLast => ?_⟩
    rw [List.mem_singleton.mp isLast]
    exact isBelow other isApplied
  · intro other isApplied
    refine ⟨_, nowRecorded, ?_⟩
    rw [applied, List.mem_append, List.mem_singleton] at isApplied
    rcases isApplied with isOld | rfl
    · exact (isBelow other isOld).le
    · exact le_rfl

/-- Without recorded progress no rule was applied, so nothing is erased. -/
theorem ProgressRecorded.restart (recorded : ProgressRecorded parseUuid rules approvalId before)
    (writes : WritesEscalation codec approval none before after)
    (isSame : approval.approval.id = approvalId)
    (notRecorded : recordedOrder parseUuid rules approvalId before = none) :
    ProgressRecorded parseUuid rules approvalId after := by
  have nothing : appliedRules rules approvalId before = [] := by
    refine List.eq_nil_iff_forall_not_mem.mpr fun rule isApplied => ?_
    obtain ⟨order, isRecorded, -⟩ := recorded.notBeyond rule isApplied
    rw [notRecorded] at isRecorded
    cases isRecorded
  have stillNothing : appliedRules rules approvalId after = [] := by
    rw [appliedRules, writes.writtenFor_same isSame, List.filterMap_append]
    simpa [appliedRules] using nothing
  constructor
  · rw [stillNothing]
    exact List.Pairwise.nil
  · rw [stillNothing]
    simp

/-- The progress of the approval stays unless an escalation is written for it. -/
def LeavesUnlessWritten (approvalId : Uuid) (before after : EscalationState) : Prop :=
  ∃ added, writtenFor approvalId after = writtenFor approvalId before ++ added ∧
    (added = [] → after.columns approvalId = before.columns approvalId)

theorem LeavesUnlessWritten.refl (state : EscalationState) :
    LeavesUnlessWritten approvalId state state :=
  ⟨[], (List.append_nil _).symm, fun _ => rfl⟩

theorem LeavesUnlessWritten.trans {between : EscalationState}
    (first : LeavesUnlessWritten approvalId before between)
    (second : LeavesUnlessWritten approvalId between after) :
    LeavesUnlessWritten approvalId before after := by
  obtain ⟨firstAdded, firstGrown, firstSame⟩ := first
  obtain ⟨secondAdded, secondGrown, secondSame⟩ := second
  refine ⟨firstAdded ++ secondAdded, ?_, fun isEmpty => ?_⟩
  · rw [secondGrown, firstGrown, List.append_assoc]
  · obtain ⟨firstEmpty, secondEmpty⟩ := List.append_eq_nil_iff.mp isEmpty
    rw [secondSame secondEmpty, firstSame firstEmpty]

theorem SameProgress.leaves (same : SameProgress before after) :
    LeavesUnlessWritten approvalId before after :=
  ⟨[], by rw [same.writtenFor, List.append_nil], fun _ => by rw [same.1]⟩

theorem WritesEscalation.leaves {ruleId : Option Uuid}
    (writes : WritesEscalation codec approval ruleId before after) :
    LeavesUnlessWritten approvalId before after := by
  by_cases isSame : approval.approval.id = approvalId
  · exact ⟨[ruleId], writes.writtenFor_same isSame, nofun⟩
  · refine ⟨[], ?_, fun _ => writes.columns_of_ne isSame⟩
    rw [writes.writtenFor_of_ne isSame, List.append_nil]

/-! ### One run of the scheduler -/

theorem escalateDueApproval_leaves (run : DueRun) (tally : DueRunTally)
    (state : EscalationState) :
    LeavesUnlessWritten approvalId state
      (escalateDueApproval codec parseUuid rules run approval tally state).2 := by
  rcases @escalateDueApproval_cases parseUuid rules codec run approval tally state with
    same | ⟨rule, -, writes⟩
  · exact same.leaves
  · exact writes.leaves

theorem escalateDueApprovals_leaves (run : DueRun) (approvals : List PresentedApproval)
    (tally : DueRunTally) (state : EscalationState) :
    LeavesUnlessWritten approvalId state
      (escalateDueApprovals codec parseUuid rules run approvals tally state).2 := by
  induction approvals generalizing tally state with
  | nil => exact .refl state
  | cons approval rest inductionHypothesis =>
      have first := @escalateDueApproval_leaves parseUuid rules approvalId codec approval run
        tally state
      rw [escalateDueApprovals]
      split <;> rename_i answered <;> rw [answered] at first
      · exact first
      · exact first.trans (inductionHypothesis ..)

/-- One approval of a run, read as it is now, keeps the progress recorded. -/
theorem escalateDueApproval_recorded
    (parses : ∀ listed ∈ rules, parseUuid (Nat.repr listed.id) = some listed.id)
    (run : DueRun) (tally : DueRunTally) {state : EscalationState}
    (isCurrent : approval.approval.id = approvalId →
      approval.columns = state.columns approvalId)
    (recorded : ProgressRecorded parseUuid rules approvalId state) :
    ProgressRecorded parseUuid rules approvalId
      (escalateDueApproval codec parseUuid rules run approval tally state).2 := by
  rcases @escalateDueApproval_cases parseUuid rules codec run approval tally state with
    same | ⟨rule, isNext, writes⟩
  · exact recorded.congr (by rw [same.1]) same.writtenFor
  · by_cases isSame : approval.approval.id = approvalId
    · rw [isCurrent isSame] at isNext
      obtain ⟨member, isFurther⟩ := nextDueEscalationRule_spec isNext
      exact recorded.advance parses writes isSame member isFurther
    · exact recorded.congr (writes.columns_of_ne isSame) (writes.writtenFor_of_ne isSame)

/-- The approval is met at most once in a run, so it is read as it is. -/
theorem escalateDueApprovals_recorded
    (parses : ∀ listed ∈ rules, parseUuid (Nat.repr listed.id) = some listed.id)
    (run : DueRun) {approvals : List PresentedApproval} (tally : DueRunTally)
    {state : EscalationState}
    (distinct : (approvals.map fun listed => listed.approval.id).Nodup)
    (areCurrent : ∀ listed ∈ approvals, listed.approval.id = approvalId →
      listed.columns = state.columns approvalId)
    (recorded : ProgressRecorded parseUuid rules approvalId state) :
    ProgressRecorded parseUuid rules approvalId
      (escalateDueApprovals codec parseUuid rules run approvals tally state).2 := by
  induction approvals generalizing tally state with
  | nil => exact recorded
  | cons approval rest inductionHypothesis =>
      have first := @escalateDueApproval_recorded parseUuid rules approvalId codec approval
        parses run tally state (areCurrent approval List.mem_cons_self) recorded
      have leaves := @escalateDueApproval_cases parseUuid rules codec run approval tally state
      rw [List.map_cons, List.nodup_cons] at distinct
      rw [escalateDueApprovals]
      split <;> rename_i answered <;> rw [answered] at first leaves
      · exact first
      · refine inductionHypothesis _ distinct.2 (fun listed member isSame => ?_) first
        have isOther : approval.approval.id ≠ approvalId := fun sameId =>
          distinct.1 (List.mem_map.mpr ⟨listed, member, isSame.trans sameId.symm⟩)
        rw [areCurrent listed (List.mem_cons_of_mem _ member) isSame]
        rcases leaves with same | ⟨rule, -, writes⟩
        · rw [same.1]
        · rw [writes.columns_of_ne isOther]

theorem executeDueApprovalEscalations_sameProgress (run : DueRun) (state : EscalationState) :
    SameProgress
      (escalateDueApprovals codec parseUuid rules run (listApprovalsForDueRun state) {} state).2
      (executeDueApprovalEscalations codec parseUuid rules run state).2 := by
  rw [executeDueApprovalEscalations]
  split <;> rename_i answered <;> rw [answered]
  · exact ⟨rfl, rfl⟩
  · split <;> exact ⟨rfl, rfl⟩

theorem executeDueApprovalEscalations_leaves (run : DueRun) (state : EscalationState) :
    LeavesUnlessWritten approvalId state
      (executeDueApprovalEscalations codec parseUuid rules run state).2 :=
  (escalateDueApprovals_leaves ..).trans (executeDueApprovalEscalations_sameProgress ..).leaves

theorem listApprovalsForDueRun_distinct (state : EscalationState) :
    ((listApprovalsForDueRun state).map fun listed => listed.approval.id).Nodup := by
  rw [listApprovalsForDueRun, List.map_map]
  exact state.store.approvals.nodupKeys.sublist (List.filter_sublist.map _)

theorem executeDueApprovalEscalations_recorded
    (parses : ∀ listed ∈ rules, parseUuid (Nat.repr listed.id) = some listed.id)
    (run : DueRun) {state : EscalationState}
    (recorded : ProgressRecorded parseUuid rules approvalId state) :
    ProgressRecorded parseUuid rules approvalId
      (executeDueApprovalEscalations codec parseUuid rules run state).2 := by
  have same := @executeDueApprovalEscalations_sameProgress parseUuid rules codec run state
  refine ProgressRecorded.congr ?_ (by rw [same.1]) same.writtenFor
  refine escalateDueApprovals_recorded parses run {} (listApprovalsForDueRun_distinct state)
    (fun listed member isSame => ?_) recorded
  obtain ⟨approval, -, rfl⟩ := List.mem_map.mp member
  rw [← isSame]
  rfl

/-! ### A manual escalation -/

theorem escalateApproval_leaves (groupId : Uuid) (request : ManualEscalation)
    (state : EscalationState) :
    LeavesUnlessWritten approvalId state
      (escalateApproval codec rules (some groupId) request state).2 := by
  rcases @escalateApproval_cases rules codec groupId request state with
    same | ⟨-, escalated, -, writes⟩
  · exact same.leaves
  · exact writes.leaves

/-- A manual escalation keeps the progress recorded where there is none to erase. -/
theorem escalateApproval_recorded (groupId : Uuid) (request : ManualEscalation)
    {state : EscalationState}
    (erasesNothing : request.approvalId = approvalId →
      manualEscalates groupId request state = true →
      recordedOrder parseUuid rules approvalId state = none)
    (recorded : ProgressRecorded parseUuid rules approvalId state) :
    ProgressRecorded parseUuid rules approvalId
      (escalateApproval codec rules (some groupId) request state).2 := by
  rcases @escalateApproval_cases rules codec groupId request state with
    same | ⟨goesThrough, escalated, isRequested, writes⟩
  · exact recorded.congr (by rw [same.1]) same.writtenFor
  · by_cases isSame : escalated.approval.id = approvalId
    · exact recorded.restart writes isSame
        (erasesNothing (isRequested.symm.trans isSame) goesThrough)
    · exact recorded.congr (writes.columns_of_ne isSame) (writes.writtenFor_of_ne isSame)

end

/-! ### Runs -/

/-- The scheduler runs, or somebody escalates an approval to a group. -/
inductive EscalationEvent where
  | due (run : DueRun)
  | manual (groupId : Uuid) (request : ManualEscalation)

section

variable (codec : RecordCodec) (parseUuid : String → Option Uuid)
  (rules : Table ApprovalEscalationRule.id) (approvalId : Uuid)

def EscalationEvent.perform : EscalationEvent → EscalationState → EscalationState
  | .due run, state => (executeDueApprovalEscalations codec parseUuid rules run state).2
  | .manual groupId request, state => (escalateApproval codec rules (some groupId) request state).2

/-- A manual escalation that goes through erases no recorded progress. -/
def EscalationEvent.KeepsProgress : EscalationEvent → EscalationState → Prop
  | .due _, _ => True
  | .manual groupId request, state =>
      request.approvalId = approvalId → manualEscalates groupId request state = true →
        recordedOrder parseUuid rules approvalId state = none

instance : (event : EscalationEvent) → (state : EscalationState) →
    Decidable (event.KeepsProgress parseUuid rules approvalId state)
  | .due _, _ => isTrue trivial
  | .manual .., _ => inferInstanceAs (Decidable (_ → _ → _))

end

section

variable {codec : RecordCodec} {parseUuid : String → Option Uuid}
  {rules : Table ApprovalEscalationRule.id} {approvalId : Uuid}

theorem EscalationEvent.perform_recorded
    (parses : ∀ listed ∈ rules, parseUuid (Nat.repr listed.id) = some listed.id)
    (event : EscalationEvent) (state : EscalationState)
    (recorded : ProgressRecorded parseUuid rules approvalId state)
    (keeps : event.KeepsProgress parseUuid rules approvalId state) :
    ProgressRecorded parseUuid rules approvalId
      (event.perform codec parseUuid rules state) := by
  cases event with
  | due run => exact executeDueApprovalEscalations_recorded parses run recorded
  | manual groupId request => exact escalateApproval_recorded groupId request keeps recorded

theorem EscalationEvent.run_leaves (events : List EscalationEvent) (state : EscalationState) :
    LeavesUnlessWritten approvalId state
      (runEvents (EscalationEvent.perform codec parseUuid rules) events state) := by
  induction events generalizing state with
  | nil => exact .refl state
  | cons event events inductionHypothesis =>
      refine LeavesUnlessWritten.trans ?_ (inductionHypothesis _)
      cases event with
      | due run => exact executeDueApprovalEscalations_leaves run state
      | manual groupId request => exact escalateApproval_leaves groupId request state

/-- A rule that is due for the approval stays due until an escalation is written for it,
at the later times that count. -/
def StaysDue (codec : RecordCodec) (parseUuid : String → Option Uuid)
    (rules : Table ApprovalEscalationRule.id) (approvalId : Uuid)
    (counts : Timestamp → Timestamp → Prop) (events : List EscalationEvent)
    (start : EscalationState) : Prop :=
  ∀ front later, front ++ later <+: events →
    writtenFor approvalId
        (runEvents (EscalationEvent.perform codec parseUuid rules) (front ++ later) start) =
      writtenFor approvalId
        (runEvents (EscalationEvent.perform codec parseUuid rules) front start) →
    ∀ now after, now ≤ after →
      counts ((runEvents (EscalationEvent.perform codec parseUuid rules) front start).columns
        approvalId).createdAt after →
      (nextDueEscalationRule parseUuid
        ((runEvents (EscalationEvent.perform codec parseUuid rules) front start).columns
          approvalId) (listApprovalEscalationRules rules) now).isSome →
      (nextDueEscalationRule parseUuid
        ((runEvents (EscalationEvent.perform codec parseUuid rules) (front ++ later)
          start).columns approvalId) (listApprovalEscalationRules rules) after).isSome

/-- While manual escalations erase no progress, the scheduler applies each rule to an
approval at most once and in their order; and what is due stays due until an escalation,
for the sixty-eight years in which the age fits its width. -/
theorem escalations_progress (codec : RecordCodec) {parseUuid : String → Option Uuid}
    {rules : Table ApprovalEscalationRule.id} {approvalId : Uuid}
    {events : List EscalationEvent} {start : EscalationState}
    (parses : ∀ listed ∈ rules, parseUuid (Nat.repr listed.id) = some listed.id)
    (unwritten : writtenFor approvalId start = [])
    (kept : MetAlong (EscalationEvent.perform codec parseUuid rules)
      (fun event state => event.KeepsProgress parseUuid rules approvalId state) events start) :
    HeldAlong (EscalationEvent.perform codec parseUuid rules)
        (AppliedInOrder rules approvalId) events start ∧
      StaysDue codec parseUuid rules approvalId
        (fun createdAt after => secondsSince after createdAt < 2 ^ 31) events start := by
  have atStart : ProgressRecorded parseUuid rules approvalId start := by
    constructor <;> simp [appliedRules, unwritten]
  have recorded := heldAlong_of_step
    (fun event state keeps held => event.perform_recorded parses state held keeps) atStart kept
  constructor
  · intro front isPrefix
    have inOrder := (recorded front isPrefix).inOrder
    exact ⟨inOrder.imp fun below same => absurd below (by rw [same]; exact lt_irrefl _), inOrder⟩
  · intro front later _ sameWritten now after notBefore within isDue
    obtain ⟨added, grown, unlessWritten⟩ := @EscalationEvent.run_leaves codec parseUuid rules
      approvalId later (runEvents (EscalationEvent.perform codec parseUuid rules) front start)
    rw [← runEvents_append, sameWritten, List.self_eq_append_right] at grown
    rw [runEvents_append, unlessWritten grown]
    exact nextDueEscalationRule_later notBefore within isDue

end

/-! ### A manual escalation between two runs -/

/-- An approval that waits, with a rule for it that is due at once. -/
def waitingApproval : Approval where
  id := 5
  sessionId := 1
  toolCallId := none
  reason := "deploy"
  decisionPayload := .null
  status := .pending
  expiresAt := none
  decidedAt := none

def dueAtOnce : ApprovalEscalationRule where
  id := 7
  name := "on call"
  riskLevel := "high"
  groupId := 3
  orderIndex := 0
  afterSeconds := 0
  status := "active"
  createdAt := 0

def waitingState : EscalationState where
  store := {
    sessions := Table.empty.insert ⟨1, .idle, 2, none, none⟩
    workflowRuns := Table.empty
    workflowStepRuns := Table.empty
    taskGrants := Table.empty
    approvals := Table.empty.insert waitingApproval }
  columns := fun _ => ⟨"high", .object [], 0⟩
  groups := Table.empty.insert ⟨3, "on call", ["ada"], "active"⟩
  written := []

def escalationCodec : RecordCodec where
  recordId := fun record _ _ => record
  jsonSha256 := fun _ => ""
  printTimestamp := fun time => toString time

/-- A run whose services always answer. -/
def answeredRun (drawn : Uuid) (checkedAt : Timestamp) : EscalationEvent :=
  .due {
    expiredAt := fun _ => checkedAt
    project := fun _ store => (.ok (), store)
    checkedAt := checkedAt
    draws := fun _ => ⟨checkedAt, drawn, drawn⟩
    auditId := drawn + 1
    deliver := fun _ store => (.ok .null, store) }

def handedOver (drawn : Uuid) (now : Timestamp) : EscalationEvent :=
  .manual 3 {
    expiredAt := fun _ => now
    project := fun _ store => (.ok (), store)
    approvalId := 5
    reason := none
    subjectId := "root"
    now := now
    draws := ⟨now, drawn, drawn⟩ }

def onlyRule : Table ApprovalEscalationRule.id := Table.empty.insert dueAtOnce

def parseSeven (text : String) : Option Uuid := if text = "7" then some 7 else none

/-- Before the first rule was applied, a manual escalation does no harm. -/
theorem early_manual_escalation_in_order :
    HeldAlong (EscalationEvent.perform escalationCodec parseSeven onlyRule)
        (AppliedInOrder onlyRule 5) [handedOver 10 1, answeredRun 20 2, answeredRun 30 3]
        waitingState ∧
      StaysDue escalationCodec parseSeven onlyRule 5
        (fun createdAt after => secondsSince after createdAt < 2 ^ 31)
        [handedOver 10 1, answeredRun 20 2, answeredRun 30 3] waitingState :=
  escalations_progress escalationCodec (by decide) rfl (by decide +kernel)

/-- After a run applied the rule, a manual escalation makes the next run apply it once
more; and sixty-eight years after its creation an approval is too old for its rule. -/
theorem manual_escalation_repeats_rule :
    ¬HeldAlong (EscalationEvent.perform escalationCodec parseSeven onlyRule)
        (AppliedInOrder onlyRule 5) [answeredRun 20 2, handedOver 10 3, answeredRun 30 4]
        waitingState ∧
      ¬StaysDue escalationCodec parseSeven onlyRule 5 (fun _ _ => True) [] waitingState := by
  constructor
  · intro along
    have atEnd := along _ (List.prefix_refl _)
    revert atEnd
    decide +kernel
  · intro stays
    have isDue := stays [] [] (by simp) rfl 0 (seconds (2 ^ 31)) (by decide) trivial
      (by decide +kernel)
    revert isDue
    decide +kernel

end MandoForge
