/-
Module: MandoForge.Foundation.Outcome
Purpose: What a success of a sequence of fallible checks says about each check.
Trusted boundary: none
Main exports: okOr, guardThen_eq_ok
-/
import Mathlib.Data.List.Forall2
import Mathlib.Logic.Basic

namespace MandoForge.Foundation

variable {Error Value Next : Type}

/-- `Option::ok_or_else`. -/
def okOr (value : Option Value) (error : Error) : Except Error Value :=
  match value with
  | some value => .ok value
  | none => .error error

theorem okOr_eq_ok {value : Option Value} {error : Error} {result : Value} :
    okOr value error = .ok result ↔ value = some result := by
  cases value <;> simp [okOr]

theorem guard_eq_ok {condition : Prop} [Decidable condition] {error : Error} :
    (if condition then throw error else pure () : Except Error Unit) = .ok () ↔
      ¬condition := by
  by_cases holds : condition <;>
    simp [holds, throw, throwThe, MonadExceptOf.throw, pure, Except.pure]

theorem guardThen_eq_ok {condition : Prop} [Decidable condition] {error : Error}
    {next : PUnit → Except Error Value} {result : Value} :
    (if condition then throw error >>= next else next ⟨⟩) = .ok result ↔
      ¬condition ∧ next ⟨⟩ = .ok result := by
  by_cases holds : condition <;>
    simp [holds, throw, throwThe, MonadExceptOf.throw, bind, Except.bind]

theorem bind_eq_ok {first : Except Error Value} {next : Value → Except Error Next}
    {result : Next} :
    (first >>= next) = .ok result ↔ ∃ value, first = .ok value ∧ next value = .ok result := by
  cases first with
  | error error => simp [bind, Except.bind]
  | ok value => simp [bind, Except.bind]

theorem ok_of_bind {first : Except Error Value} {next : Value → Except Error Next}
    {property : Next → Prop}
    (follows : ∀ value result, next value = .ok result → property result) :
    ∀ result, (first >>= next) = .ok result → property result := by
  intro result returned
  obtain ⟨value, -, continued⟩ := bind_eq_ok.mp returned
  exact follows value result continued

theorem then_eq_ok {first : Except Error Unit} {next : Unit → Except Error Value}
    {result : Value} :
    (first >>= next) = .ok result ↔ first = .ok () ∧ next () = .ok result := by
  cases first with
  | error error => simp [bind, Except.bind]
  | ok value => simp [bind, Except.bind]

theorem forM_eq_ok {items : List Value} {check : Value → Except Error Unit} :
    items.forM check = .ok () ↔ ∀ item ∈ items, check item = .ok () := by
  induction items with
  | nil => simp [pure, Except.pure]
  | cons item items inductionHypothesis =>
      change (check item >>= fun _ => items.forM check) = .ok () ↔ _
      rw [bind_eq_ok, List.forall_mem_cons, ← inductionHypothesis]
      exact ⟨fun ⟨⟨⟩, first, rest⟩ => ⟨first, rest⟩, fun ⟨first, rest⟩ => ⟨⟨⟩, first, rest⟩⟩

/-- A list is mapped when every item is. -/
theorem mapM_eq_ok {Item : Type} {items : List Item} {check : Item → Except Error Value}
    {results : List Value} :
    items.mapM check = .ok results ↔
      List.Forall₂ (fun item result => check item = .ok result) items results := by
  induction items generalizing results with
  | nil =>
      rw [List.mapM_nil, List.forall₂_nil_left_iff]
      exact ⟨fun same => (Except.ok.inj same).symm, fun isEmpty => isEmpty ▸ rfl⟩
  | cons item items inductionHypothesis =>
      rw [List.mapM_cons, bind_eq_ok, List.forall₂_cons_left_iff]
      constructor
      · rintro ⟨value, checked, rest⟩
        obtain ⟨values, mapped, same⟩ := bind_eq_ok.mp rest
        exact ⟨value, values, checked, inductionHypothesis.mp mapped, (Except.ok.inj same).symm⟩
      · rintro ⟨value, values, checked, mapped, rfl⟩
        exact ⟨value, checked, bind_eq_ok.mpr ⟨values, inductionHypothesis.mpr mapped, rfl⟩⟩

theorem mapM_result_of_mem {Item : Type} {items : List Item} {check : Item → Except Error Value}
    {results : List Value} (mapped : items.mapM check = .ok results) {item : Item}
    (member : item ∈ items) : ∃ result ∈ results, check item = .ok result := by
  have checked := mapM_eq_ok.mp mapped
  clear mapped
  induction checked with
  | nil => exact absurd member List.not_mem_nil
  | cons first _ inductionHypothesis =>
      rcases List.mem_cons.mp member with rfl | inRest
      · exact ⟨_, List.mem_cons_self, first⟩
      · obtain ⟨result, isResult, isChecked⟩ := inductionHypothesis inRest
        exact ⟨result, List.mem_cons_of_mem _ isResult, isChecked⟩

theorem mapM_item_of_mem {Item : Type} {items : List Item} {check : Item → Except Error Value}
    {results : List Value} (mapped : items.mapM check = .ok results) {result : Value}
    (member : result ∈ results) : ∃ item ∈ items, check item = .ok result := by
  have checked := mapM_eq_ok.mp mapped
  clear mapped
  induction checked with
  | nil => exact absurd member List.not_mem_nil
  | cons first _ inductionHypothesis =>
      rcases List.mem_cons.mp member with rfl | inRest
      · exact ⟨_, List.mem_cons_self, first⟩
      · obtain ⟨item, isItem, isChecked⟩ := inductionHypothesis inRest
        exact ⟨item, List.mem_cons_of_mem _ isItem, isChecked⟩

theorem exists_mapM_of_forall {Item : Type} {items : List Item}
    {check : Item → Except Error Value} (each : ∀ item ∈ items, ∃ value, check item = .ok value) :
    ∃ values, items.mapM check = .ok values := by
  induction items with
  | nil => exact ⟨[], rfl⟩
  | cons item items inductionHypothesis =>
      obtain ⟨⟨value, checked⟩, rest⟩ := List.forall_mem_cons.mp each
      obtain ⟨values, mapped⟩ := inductionHypothesis rest
      exact ⟨value :: values, by rw [List.mapM_cons, checked, mapped]; rfl⟩

/-- A list is not mapped when one item fails and the items before it do not. -/
theorem mapM_eq_error {Item : Type} {items : List Item} {check : Item → Except Error Value}
    {error : Error} :
    items.mapM check = .error error ↔
      ∃ before item after, items = before ++ item :: after ∧
        (∀ earlier ∈ before, ∃ value, check earlier = .ok value) ∧ check item = .error error := by
  induction items with
  | nil => simp [pure, Except.pure]
  | cons item items inductionHypothesis =>
      rw [List.mapM_cons]
      constructor
      · intro failed
        cases checked : check item with
        | error found =>
            rw [checked] at failed
            obtain rfl : found = error := Except.error.inj failed
            exact ⟨[], item, items, rfl, by simp, checked⟩
        | ok value =>
            rw [checked] at failed
            have later : items.mapM check = .error error := by
              cases mapped : items.mapM check with
              | error found =>
                  rw [mapped] at failed
                  exact failed
              | ok values =>
                  rw [mapped] at failed
                  cases failed
            obtain ⟨before, failing, after, rfl, fine, refused⟩ := inductionHypothesis.mp later
            exact ⟨item :: before, failing, after, rfl,
              List.forall_mem_cons.mpr ⟨⟨value, checked⟩, fine⟩, refused⟩
      · rintro ⟨before, failing, after, split, fine, refused⟩
        cases before with
        | nil =>
            obtain ⟨rfl, rfl⟩ := List.cons.inj split
            rw [refused]
            rfl
        | cons first before =>
            obtain ⟨rfl, rfl⟩ := List.cons.inj split
            obtain ⟨⟨value, checked⟩, fine⟩ := List.forall_mem_cons.mp fine
            rw [checked, inductionHypothesis.mpr ⟨before, failing, after, rfl, fine, refused⟩]
            rfl

theorem mapM_append_eq_error {Item : Type} {before after : List Item}
    {check : Item → Except Error Value} {error : Error}
    (fine : ∀ earlier ∈ before, ∃ value, check earlier = .ok value) :
    (before ++ after).mapM check = .error error ↔ after.mapM check = .error error := by
  induction before with
  | nil => rfl
  | cons item before inductionHypothesis =>
      obtain ⟨⟨value, checked⟩, fine⟩ := List.forall_mem_cons.mp fine
      rw [List.cons_append, List.mapM_cons, checked, ← inductionHypothesis fine]
      cases (before ++ after).mapM check <;> simp [bind, Except.bind, pure, Except.pure]

/-- Two checks that differ on some items, which the second one refuses, map a list alike, as
far as a summary tells, unless the list comes to such an item and the first check does not end
with the same error. -/
theorem mapM_eq_iff_of_refused {Item Summary : Type} {items : List Item}
    {check other : Item → Except Error Value} {refused : Item → Prop} {error : Error}
    (summarize : List Value → Summary)
    (same : ∀ item ∈ items, ¬refused item → other item = check item)
    (refuses : ∀ item ∈ items, refused item → other item = .error error) :
    (items.mapM other).map summarize = (items.mapM check).map summarize ↔
      ∀ before item after, items = before ++ item :: after → refused item →
        (∀ earlier ∈ before, ∃ value, check earlier = .ok value) →
          (item :: after).mapM check = .error error := by
  induction items generalizing summarize with
  | nil => simp
  | cons first items inductionHypothesis =>
      obtain ⟨sameFirst, sameRest⟩ := List.forall_mem_cons.mp same
      obtain ⟨refusesFirst, refusesRest⟩ := List.forall_mem_cons.mp refuses
      by_cases isRefused : refused first
      · have otherFails : (first :: items).mapM other = .error error := by
          rw [List.mapM_cons, refusesFirst isRefused]
          rfl
        have summarized : ((first :: items).mapM other).map summarize =
            ((first :: items).mapM check).map summarize ↔
              (first :: items).mapM check = .error error := by
          rw [otherFails]
          cases (first :: items).mapM check <;> simp [Except.map, eq_comm]
        rw [summarized]
        constructor
        · intro fails before item after split _ fine
          rw [split, mapM_append_eq_error fine] at fails
          exact fails
        · intro each
          exact each [] first items rfl isRefused (by simp)
      · rw [List.mapM_cons, List.mapM_cons, sameFirst isRefused]
        cases checked : check first with
        | error found =>
            refine iff_of_true rfl fun before item after split itemRefused fine => ?_
            cases before with
            | nil =>
                obtain ⟨rfl, rfl⟩ := List.cons.inj split
                exact absurd itemRefused isRefused
            | cons earlier before =>
                obtain ⟨rfl, rfl⟩ := List.cons.inj split
                obtain ⟨value, fineFirst⟩ := fine first List.mem_cons_self
                cases checked.symm.trans fineFirst
        | ok value =>
            have absorbed : ∀ mapped : Except Error (List Value),
                (do let values ← mapped; pure (value :: values)).map summarize =
                  mapped.map fun values => summarize (value :: values) := by
              intro mapped
              cases mapped <;> rfl
            have rest := inductionHypothesis (fun values => summarize (value :: values)) sameRest
              refusesRest
            rw [← absorbed, ← absorbed] at rest
            refine rest.trans ⟨?_, ?_⟩
            · intro each before item after split itemRefused fine
              cases before with
              | nil =>
                  obtain ⟨rfl, rfl⟩ := List.cons.inj split
                  exact absurd itemRefused isRefused
              | cons earlier before =>
                  obtain ⟨rfl, rfl⟩ := List.cons.inj split
                  exact each before item after rfl itemRefused (List.forall_mem_cons.mp fine).2
            · intro each before item after split itemRefused fine
              subst split
              exact each (first :: before) item after rfl itemRefused
                (List.forall_mem_cons.mpr ⟨⟨value, checked⟩, fine⟩)

theorem foldlM_keeps {State Item : Type} {items : List Item}
    {step : State → Item → Except Error State} {kept : State → Prop}
    (keeps : ∀ state item after, step state item = .ok after → kept state → kept after)
    {first last : State} (folds : items.foldlM step first = .ok last) (holds : kept first) :
    kept last := by
  induction items generalizing first with
  | nil => exact Except.ok.inj folds ▸ holds
  | cons item items inductionHypothesis =>
      obtain ⟨next, stepped, folds⟩ := bind_eq_ok.mp folds
      exact inductionHypothesis folds (keeps first item next stepped holds)

end MandoForge.Foundation
