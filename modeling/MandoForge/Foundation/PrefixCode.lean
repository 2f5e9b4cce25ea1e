/-
Module: MandoForge.Foundation.PrefixCode
Purpose: Texts that can be read back: with something after it, the text of an item tells
  the item and its own end.  How the property passes to runs of symbols, to
  concatenations up to a closing symbol, and to lists with separators.
Trusted boundary: none
Main exports: ReadsBack, readsBack_of_reader
-/
import Mathlib.Data.List.Basic

namespace MandoForge.Foundation

variable {Symbol Item : Type*}

/-- Followed by something that stops it, the text of the item begins no other text of a
good item. -/
def ReadsBack (text : Item → List Symbol) (stops : List Symbol → Prop) (good : Item → Prop)
    (item : Item) : Prop :=
  ∀ ⦃other : Item⦄ ⦃rest others : List Symbol⦄, good other → stops rest → stops others →
    text item ++ rest = text other ++ others → item = other ∧ rest = others

variable {text : Item → List Symbol} {stops : List Symbol → Prop} {good : Item → Prop}

theorem ReadsBack.injective {item other : Item} (reads : ReadsBack text stops good item)
    (isGood : good other) (stopsAtEnd : stops []) (same : text item = text other) :
    item = other :=
  (reads isGood stopsAtEnd stopsAtEnd (congrArg (· ++ []) same)).1

theorem readsBack_of_reader {read : List Symbol → Option (Item × List Symbol)}
    (reads : ∀ item rest, good item → stops rest → read (text item ++ rest) = some (item, rest))
    {item : Item} (isGood : good item) : ReadsBack text stops good item := by
  intro other rest others otherGood stopped otherStopped same
  have twice := (reads item rest isGood stopped).symm.trans
    ((congrArg read same).trans (reads other others otherGood otherStopped))
  exact Prod.ext_iff.mp (Option.some.inj twice)

/-- Texts of symbols of one kind, stopped by a symbol of another. -/
theorem readsBack_of_run {kind : Symbol → Bool} (ofKind : ∀ item, good item →
      ∀ symbol ∈ text item, kind symbol = true)
    (distinct : ∀ item other, good item → good other → text item = text other → item = other)
    {item : Item} (isGood : good item) :
    ReadsBack text (fun rest => ∀ symbol ∈ rest.head?, kind symbol = false) good item := by
  have run (item : Item) (isGood : good item) (rest : List Symbol)
      (stopped : ∀ symbol ∈ rest.head?, kind symbol = false) :
      (text item ++ rest).takeWhile kind = text item := by
    rw [List.takeWhile_append_of_pos (ofKind item isGood)]
    cases rest with
    | nil => rw [List.takeWhile_nil, List.append_nil]
    | cons symbol rest =>
        rw [List.takeWhile_cons, stopped symbol rfl]
        exact List.append_nil (text item)
  intro other rest others otherGood stopped otherStopped same
  have sameText : text item = text other := by
    rw [← run item isGood rest stopped, same, run other otherGood others otherStopped]
  rw [sameText] at same
  exact ⟨distinct item other isGood otherGood sameText, List.append_cancel_left same⟩

/-- A concatenation up to a symbol that begins no item. -/
theorem flatMap_readsBack {close : Symbol} (unclosed : ∀ item rest, good item →
      (text item ++ rest).head? ≠ some close)
    (stopped : ∀ (items : List Item) rest, rest.head? = some close →
      stops (items.flatMap text ++ rest))
    {items : List Item} (each : ∀ item ∈ items, ReadsBack text stops good item)
    (isGood : ∀ item ∈ items, good item) :
    ReadsBack (fun items => items.flatMap text) (fun rest => rest.head? = some close)
      (fun others => ∀ other ∈ others, good other) items := by
  induction items with
  | nil =>
      intro others rest rests othersGood closed otherClosed same
      cases others with
      | nil => exact ⟨rfl, same⟩
      | cons other others =>
          simp only [List.flatMap_nil, List.nil_append, List.flatMap_cons,
            List.append_assoc] at same
          exact absurd (same ▸ closed) (unclosed other _ (othersGood other List.mem_cons_self))
  | cons item items inductionHypothesis =>
      intro others rest rests othersGood closed otherClosed same
      cases others with
      | nil =>
          simp only [List.flatMap_nil, List.nil_append, List.flatMap_cons,
            List.append_assoc] at same
          exact absurd (same ▸ otherClosed) (unclosed item _ (isGood item List.mem_cons_self))
      | cons other others =>
          simp only [List.flatMap_cons, List.append_assoc] at same
          obtain ⟨rfl, tails⟩ := each item List.mem_cons_self
            (othersGood other List.mem_cons_self) (stopped items rest closed)
            (stopped others rests otherClosed) same
          obtain ⟨rfl, rfl⟩ := inductionHypothesis
            (fun item member => each item (List.mem_cons_of_mem _ member))
            (fun item member => isGood item (List.mem_cons_of_mem _ member))
            (fun other member => othersGood other (List.mem_cons_of_mem _ member))
            closed otherClosed tails
          exact ⟨rfl, rfl⟩

section separated

variable {separator close : Symbol}

theorem intercalate_cons (first : List Symbol) (texts : List (List Symbol)) :
    [separator].intercalate (first :: texts) =
      first ++ texts.flatMap fun next => separator :: next := by
  induction texts generalizing first with
  | nil => simp
  | cons second texts inductionHypothesis =>
      rw [List.intercalate_cons_cons, inductionHypothesis second, List.flatMap_cons]
      simp

/-- A list with separators up to a closing symbol. -/
theorem intercalate_readsBack (different : separator ≠ close)
    (stopsAtSeparator : ∀ rest, stops (separator :: rest))
    (stopsAtClose : ∀ rest, stops (close :: rest))
    (unclosed : ∀ item rest, good item → (text item ++ rest).head? ≠ some close)
    {items : List Item} (each : ∀ item ∈ items, ReadsBack text stops good item)
    (isGood : ∀ item ∈ items, good item) :
    ReadsBack (fun items => [separator].intercalate (items.map text))
      (fun rest => rest.head? = some close) (fun others => ∀ other ∈ others, good other) items := by
  have stopped (items : List Item) (rest : List Symbol) (closed : rest.head? = some close) :
      stops ((items.flatMap fun item => separator :: text item) ++ rest) := by
    cases items with
    | nil =>
        cases rest with
        | nil => cases closed
        | cons symbol rest =>
            obtain rfl := Option.some.inj closed
            exact stopsAtClose rest
    | cons item items => exact stopsAtSeparator _
  intro others rest rests othersGood closed otherClosed same
  cases items with
  | nil =>
      cases others with
      | nil => exact ⟨rfl, same⟩
      | cons other others =>
          simp only [List.map_nil, List.intercalate_nil, List.nil_append, List.map_cons,
            intercalate_cons, List.append_assoc] at same
          exact absurd (same ▸ closed) (unclosed other _ (othersGood other List.mem_cons_self))
  | cons item items =>
      cases others with
      | nil =>
          simp only [List.map_nil, List.intercalate_nil, List.nil_append, List.map_cons,
            intercalate_cons, List.append_assoc] at same
          exact absurd (same ▸ otherClosed) (unclosed item _ (isGood item List.mem_cons_self))
      | cons other others =>
          simp only [List.map_cons, intercalate_cons, List.append_assoc, List.flatMap_map] at same
          obtain ⟨rfl, tails⟩ := each item List.mem_cons_self
            (othersGood other List.mem_cons_self) (stopped items rest closed)
            (stopped others rests otherClosed) same
          -- from here on every item comes after a separator
          have further : ∀ item ∈ items,
              ReadsBack (fun item => separator :: text item) stops good item :=
            fun item member _ _ _ otherGood stops otherStops same =>
              each item (List.mem_cons_of_mem _ member) otherGood stops otherStops
                (List.cons.inj same).2
          have unclosedItem (item : Item) (rest : List Symbol) (_ : good item) :
              ((separator :: text item) ++ rest).head? ≠ some close :=
            fun isClose => different (Option.some.inj isClose)
          obtain ⟨rfl, rfl⟩ := flatMap_readsBack unclosedItem stopped further
            (fun item member => isGood item (List.mem_cons_of_mem _ member))
            (fun other member => othersGood other (List.mem_cons_of_mem _ member))
            closed otherClosed tails
          exact ⟨rfl, rfl⟩

end separated

end MandoForge.Foundation
