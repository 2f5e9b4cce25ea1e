/-
Module: MandoForge.Data.JsonText
Purpose: The compact text of a JSON value, and that the text tells the value: strings
  are quoted and escaped, numbers end where something else begins, and arrays and
  objects are closed.
Trusted boundary: the text of a float belongs to the library; `printFloat` stands for it.
Main exports: quoteJson, Json.integersOnly
-/
import MandoForge.Data.Json
import MandoForge.Foundation.PrefixCode
import Mathlib.Tactic.IntervalCases

namespace MandoForge

open Foundation

/-! ### Strings -/

def quotationMark : Char := Char.ofNat 0x22

def backslash : Char := Char.ofNat 0x5C

/-- The characters with an escape of one letter. -/
def shortEscapes : List (Char × Char) := [
  (quotationMark, quotationMark), (backslash, backslash), (Char.ofNat 0x08, 'b'),
  (Char.ofNat 0x09, 't'), (Char.ofNat 0x0A, 'n'), (Char.ofNat 0x0C, 'f'), (Char.ofNat 0x0D, 'r')]

/-- The other control characters are written by their number. -/
def escapeJsonChar (c : Char) : List Char :=
  match shortEscapes.lookup c with
  | some letter => [backslash, letter]
  | none =>
      if c.toNat < 32 then
        [backslash, 'u', '0', '0', Nat.digitChar (c.toNat / 16), Nat.digitChar (c.toNat % 16)]
      else [c]

def quotedChars (chars : List Char) : List Char :=
  quotationMark :: (chars.flatMap escapeJsonChar ++ [quotationMark])

/-- `serde_json::to_string` of a string. -/
def quoteJson (text : String) : String := String.ofList (quotedChars text.toList)

/-- The value of a hexadecimal digit. -/
def hexDigitValue (c : Char) : Nat :=
  if c.isDigit then c.toNat - '0'.toNat else c.toNat - 'a'.toNat + 10

/-- One character off an escaped text. -/
def readJsonChar : List Char → Option (Char × List Char)
  | [] => none
  | first :: rest =>
      if first ≠ backslash then some (first, rest)
      else match rest with
        | 'u' :: _ :: _ :: high :: low :: rest =>
            some (Char.ofNat (16 * hexDigitValue high + hexDigitValue low), rest)
        | letter :: rest =>
            (shortEscapes.find? fun escape => decide (escape.2 = letter)).map fun escape =>
              (escape.1, rest)
        | [] => none

theorem readJsonChar_control {n : Nat} (control : n < 32) (rest : List Char) :
    readJsonChar (escapeJsonChar (Char.ofNat n) ++ rest) = some (Char.ofNat n, rest) := by
  interval_cases n <;> rfl

theorem shortEscapes_control : ∀ escape ∈ shortEscapes, escape.1 = quotationMark ∨
    escape.1 = backslash ∨ escape.1.toNat < 32 := by
  decide

theorem readJsonChar_escape (c : Char) (rest : List Char) :
    readJsonChar (escapeJsonChar c ++ rest) = some (c, rest) := by
  by_cases control : c.toNat < 32
  · have named : Char.ofNat c.toNat = c := Char.ofNat_toNat c
    rw [← named]
    exact readJsonChar_control control rest
  · by_cases isQuote : c = quotationMark
    · subst isQuote; rfl
    · by_cases isBackslash : c = backslash
      · subst isBackslash; rfl
      · have unescaped : shortEscapes.lookup c = none := by
          rw [List.lookup_eq_none_iff]
          intro escape member
          rw [bne_iff_ne]
          rintro rfl
          rcases shortEscapes_control escape member with isMark | isSlash | isControl
          · exact isQuote isMark
          · exact isBackslash isSlash
          · exact control isControl
        rw [escapeJsonChar, unescaped]
        simp only [if_neg control, List.singleton_append, readJsonChar]
        rw [if_pos isBackslash]

theorem head?_escapeJsonChar (c : Char) (rest : List Char) :
    (escapeJsonChar c ++ rest).head? ≠ some quotationMark := by
  intro isMark
  cases escaped : escapeJsonChar c ++ rest with
  | nil => rw [escaped] at isMark; cases isMark
  | cons first others =>
      rw [escaped] at isMark
      obtain rfl := Option.some.inj isMark
      have read : some (quotationMark, others) = some (c, rest) := by
        rw [← readJsonChar_escape c rest, escaped]
        rfl
      obtain ⟨rfl, -⟩ := Prod.ext_iff.mp (Option.some.inj read)
      exact absurd (Option.some.inj (congrArg List.head? escaped)) (by decide)

theorem quotedChars_readsBack (chars : List Char) :
    ReadsBack quotedChars (fun _ => True) (fun _ => True) chars := by
  intro others rest rests _ _ _ same
  simp only [quotedChars, List.cons_append, List.append_assoc, List.cons.injEq, true_and,
    List.nil_append] at same
  have each : ∀ c ∈ chars, ReadsBack escapeJsonChar (fun _ => True) (fun _ => True) c :=
    fun c _ => readsBack_of_reader (fun c rest _ _ => readJsonChar_escape c rest) trivial
  obtain ⟨rfl, ends⟩ := flatMap_readsBack (fun c rest _ => head?_escapeJsonChar c rest)
    (fun _ _ _ => trivial) each (fun _ _ => trivial) (fun _ _ => trivial) rfl rfl same
  exact ⟨rfl, (List.cons.inj ends).2⟩

theorem quoteJson_readsBack (text : String) :
    ReadsBack (fun text => (quoteJson text).toList) (fun _ => True) (fun _ => True) text := by
  intro other rest others _ _ _ same
  simp only [quoteJson, String.toList_ofList] at same
  obtain ⟨sameChars, ends⟩ := quotedChars_readsBack text.toList trivial trivial trivial same
  exact ⟨String.toList_injective sameChars, ends⟩

/-! ### Values -/

/-- A character of the text of an integer. -/
def isNumberChar (c : Char) : Bool := c.isDigit || decide (c = '-')

/-- Behind a value comes no character that a number could go on with. -/
def FollowsValue (rest : List Char) : Prop := ∀ c ∈ rest.head?, isNumberChar c = false

section text

variable (printFloat : Rat → String)

/-- `Number::to_string`. -/
def numberText : JsonNumber → String
  | .posInt value => Nat.repr value.toNat
  | .negInt value => "-" ++ Nat.repr value.toInt.natAbs
  | .float value => printFloat value

mutual

/-- `serde_json::to_string`; the fields of an object come in the order that it has. -/
def compactJson : Json → String
  | .null => "null"
  | .bool value => if value then "true" else "false"
  | .number value => numberText printFloat value
  | .string value => quoteJson value
  | .array values => "[" ++ ",".intercalate (compactJsonItems values) ++ "]"
  | .object fields => "\x7b" ++ ",".intercalate (compactJsonFields fields) ++ "\x7d"

def compactJsonItems : List Json → List String
  | [] => []
  | value :: rest => compactJson value :: compactJsonItems rest

def compactJsonFields : List (String × Json) → List String
  | [] => []
  | (key, value) :: rest => (quoteJson key ++ ":" ++ compactJson value) :: compactJsonFields rest

end

end text

namespace Json

mutual

/-- Every number in the value is an integer, a negative one if it is held as such. -/
def integersOnly : Json → Bool
  | .number (.posInt _) => true
  | .number (.negInt value) => decide (value.toInt < 0)
  | .number (.float _) => false
  | .array items => itemsIntegersOnly items
  | .object fields => fieldsIntegersOnly fields
  | _ => true

def itemsIntegersOnly : List Json → Bool
  | [] => true
  | item :: rest => integersOnly item && itemsIntegersOnly rest

def fieldsIntegersOnly : List (String × Json) → Bool
  | [] => true
  | (_, value) :: rest => integersOnly value && fieldsIntegersOnly rest

end

theorem itemsIntegersOnly_iff {items : List Json} :
    itemsIntegersOnly items = true ↔ ∀ item ∈ items, item.integersOnly = true := by
  induction items with
  | nil => simp [itemsIntegersOnly]
  | cons item rest inductionHypothesis => simp [itemsIntegersOnly, inductionHypothesis]

theorem fieldsIntegersOnly_iff {fields : List (String × Json)} :
    fieldsIntegersOnly fields = true ↔ ∀ field ∈ fields, field.2.integersOnly = true := by
  induction fields with
  | nil => simp [fieldsIntegersOnly]
  | cons field rest inductionHypothesis => simp [fieldsIntegersOnly, inductionHypothesis]

end Json

/-! ### Numbers -/

theorem isDigit_of_mem_repr {n : Nat} {c : Char} (member : c ∈ (Nat.repr n).toList) :
    c.isDigit = true := by
  rw [Nat.repr, String.toList_ofList] at member
  exact Nat.isDigit_of_mem_toDigits (by decide) (by decide) member

theorem repr_ne_nil (n : Nat) : (Nat.repr n).toList ≠ [] := by
  rw [Nat.repr, String.toList_ofList]
  exact Nat.toDigits_ne_nil

theorem repr_injective : Function.Injective Nat.repr := by
  intro first second same
  have digits : Nat.toDigits 10 first = Nat.toDigits 10 second := String.ofList_injective same
  rw [← @Nat.ofDigitChars_toDigits 10 first (by decide) (by decide), digits,
    Nat.ofDigitChars_toDigits (by decide) (by decide)]

section reading

variable (printFloat : Rat → String)

theorem isNumberChar_of_mem_numberText {number : JsonNumber}
    (isInteger : (Json.number number).integersOnly = true) {c : Char}
    (member : c ∈ (numberText printFloat number).toList) : isNumberChar c = true := by
  cases number with
  | posInt value => simp [isNumberChar, isDigit_of_mem_repr member]
  | negInt value =>
      rw [numberText, String.toList_append, List.mem_append] at member
      rcases member with isSign | isDigit
      · obtain rfl := List.mem_singleton.mp isSign
        rfl
      · simp [isNumberChar, isDigit_of_mem_repr isDigit]
  | float value => cases isInteger

theorem numberText_injective {number other : JsonNumber}
    (isInteger : (Json.number number).integersOnly = true)
    (otherIsInteger : (Json.number other).integersOnly = true)
    (same : numberText printFloat number = numberText printFloat other) : number = other := by
  have unsigned (value : UInt64) (negative : Int64) :
      Nat.repr value.toNat ≠ "-" ++ Nat.repr negative.toInt.natAbs := by
    intro same
    have member : '-' ∈ (Nat.repr value.toNat).toList := by simp [same]
    exact absurd (isDigit_of_mem_repr member) (by decide)
  cases number with
  | posInt value =>
      cases other with
      | posInt otherValue => exact congrArg _ (UInt64.toNat_inj.mp (repr_injective same))
      | negInt otherValue => exact absurd same (unsigned value otherValue)
      | float otherValue => cases otherIsInteger
  | negInt value =>
      cases other with
      | posInt otherValue => exact absurd same.symm (unsigned otherValue value)
      | negInt otherValue =>
          have magnitudes : value.toInt.natAbs = otherValue.toInt.natAbs :=
            repr_injective (String.append_right_inj _ |>.mp same)
          simp only [Json.integersOnly, decide_eq_true_eq] at isInteger otherIsInteger
          have equal : value.toInt = otherValue.toInt := by omega
          exact congrArg _ (Int64.toInt_inj.mp equal)
      | float otherValue => cases otherIsInteger
  | float value => cases isInteger

/-! ### Reading a value back -/

/-- Values by the way in which their texts begin. -/
inductive JsonKind where
  | null
  | bool
  | number
  | string
  | array
  | object
deriving DecidableEq

def Json.kind : Json → JsonKind
  | .null => .null
  | .bool _ => .bool
  | .number _ => .number
  | .string _ => .string
  | .array _ => .array
  | .object _ => .object

def kindOfStart (c : Char) : Option JsonKind :=
  if c = 'n' then some .null
  else if c = 't' ∨ c = 'f' then some .bool
  else if c = quotationMark then some .string
  else if c = '[' then some .array
  else if c = Char.ofNat 0x7B then some .object
  else if isNumberChar c then some .number
  else none

theorem kindOfStart_number {c : Char} (isNumber : isNumberChar c = true) :
    kindOfStart c = some .number := by
  have apart {mark : Char} (other : isNumberChar mark = false) : c ≠ mark := by
    rintro rfl
    exact absurd isNumber (by rw [other]; decide)
  rw [kindOfStart, if_neg (apart (by decide)),
    if_neg (not_or.mpr ⟨apart (by decide), apart (by decide)⟩), if_neg (apart (by decide)),
    if_neg (apart (by decide)), if_neg (apart (by decide)), if_pos isNumber]

theorem numberText_ne_nil {number : JsonNumber}
    (isInteger : (Json.number number).integersOnly = true) :
    (numberText printFloat number).toList ≠ [] := by
  cases number with
  | posInt value => exact repr_ne_nil _
  | negInt value => simp [numberText]
  | float value => cases isInteger

/-- A text begins as values of its kind do. -/
theorem compactJson_start {value : Json} (integers : value.integersOnly = true) :
    ∃ first rest, (compactJson printFloat value).toList = first :: rest ∧
      kindOfStart first = some value.kind := by
  cases value with
  | null => exact ⟨'n', ['u', 'l', 'l'], by rw [compactJson]; rfl, rfl⟩
  | bool flag =>
      cases flag with
      | true => exact ⟨'t', ['r', 'u', 'e'], by rw [compactJson]; rfl, rfl⟩
      | false => exact ⟨'f', ['a', 'l', 's', 'e'], by rw [compactJson]; rfl, rfl⟩
  | number number =>
      cases text : (numberText printFloat number).toList with
      | nil => exact absurd text (numberText_ne_nil printFloat integers)
      | cons first rest =>
          have isNumber := isNumberChar_of_mem_numberText printFloat integers
            (text ▸ List.mem_cons_self)
          exact ⟨first, rest, by rw [compactJson, text], kindOfStart_number isNumber⟩
  | string text => exact ⟨_, _, by rw [compactJson, quoteJson, String.toList_ofList]; rfl, rfl⟩
  | array items =>
      exact ⟨_, _, by rw [compactJson, String.toList_append, String.toList_append]; rfl, rfl⟩
  | object fields =>
      exact ⟨_, _, by rw [compactJson, String.toList_append, String.toList_append]; rfl, rfl⟩

theorem compactJsonItems_eq_map (items : List Json) :
    compactJsonItems printFloat items = items.map (compactJson printFloat) := by
  induction items with
  | nil => rfl
  | cons item rest inductionHypothesis => rw [compactJsonItems, inductionHypothesis, List.map_cons]

/-- The characters of a value. -/
def valueChars (value : Json) : List Char := (compactJson printFloat value).toList

/-- The characters of a field. -/
def fieldChars (field : String × Json) : List Char :=
  (quoteJson field.1).toList ++ ':' :: valueChars printFloat field.2

theorem compactJsonFields_eq_map (fields : List (String × Json)) :
    compactJsonFields printFloat fields =
      fields.map fun field => quoteJson field.1 ++ ":" ++ compactJson printFloat field.2 := by
  induction fields with
  | nil => rfl
  | cons field rest inductionHypothesis => rw [compactJsonFields, inductionHypothesis, List.map_cons]

theorem valueChars_array (items : List Json) :
    valueChars printFloat (.array items) =
      '[' :: ([','].intercalate (items.map (valueChars printFloat)) ++ [']']) := by
  rw [valueChars, compactJson, compactJsonItems_eq_map]
  simp [String.toList_intercalate, List.map_map, Function.comp_def]
  rfl

theorem valueChars_object (fields : List (String × Json)) :
    valueChars printFloat (.object fields) =
      Char.ofNat 0x7B :: ([','].intercalate (fields.map (fieldChars printFloat)) ++
        [Char.ofNat 0x7D]) := by
  rw [valueChars, compactJson, compactJsonFields_eq_map]
  simp [String.toList_intercalate, List.map_map, Function.comp_def]
  rfl

/-- A value whose text something that follows a value can be told from. -/
def ValueReadsBack (value : Json) : Prop :=
  ReadsBack (valueChars printFloat) FollowsValue (fun value => value.integersOnly = true) value

theorem head?_valueChars {value : Json} (integers : value.integersOnly = true) {mark : Char}
    (notStart : kindOfStart mark = none) (rest : List Char) :
    (valueChars printFloat value ++ rest).head? ≠ some mark := by
  obtain ⟨first, others, text, kind⟩ := compactJson_start printFloat integers
  rw [valueChars, text]
  intro isMark
  obtain rfl := Option.some.inj isMark
  cases notStart.symm.trans kind

theorem head?_fieldChars (field : String × Json) (rest : List Char) :
    (fieldChars printFloat field ++ rest).head? ≠ some (Char.ofNat 0x7D) := by
  rw [fieldChars, quoteJson, String.toList_ofList]
  exact fun isMark => absurd (Option.some.inj isMark) (by decide)

theorem followsValue_of_mark {mark : Char} (other : isNumberChar mark = false)
    (rest : List Char) : FollowsValue (mark :: rest) := by
  rintro _ ⟨⟩
  exact other

theorem items_readsBack {items : List Json} (integers : Json.itemsIntegersOnly items = true)
    (each : ∀ item ∈ items, ValueReadsBack printFloat item) :
    ReadsBack (fun items => [','].intercalate (items.map (valueChars printFloat)))
      (fun rest => rest.head? = some ']')
      (fun others => ∀ other ∈ others, other.integersOnly = true) items :=
  intercalate_readsBack (by decide) (followsValue_of_mark (by decide))
    (followsValue_of_mark (by decide))
    (fun _ rest isGood => head?_valueChars printFloat isGood (by decide) rest) each
    (Json.itemsIntegersOnly_iff.mp integers)

theorem field_readsBack {field : String × Json} (value : ValueReadsBack printFloat field.2) :
    ReadsBack (fieldChars printFloat) FollowsValue
      (fun field => field.2.integersOnly = true) field := by
  intro other rest others otherGood followed otherFollowed same
  simp only [fieldChars, List.append_assoc, List.cons_append] at same
  obtain ⟨sameKey, values⟩ := quoteJson_readsBack field.1 trivial trivial trivial same
  obtain ⟨sameValue, rests⟩ := value otherGood followed otherFollowed (List.cons.inj values).2
  exact ⟨Prod.ext sameKey sameValue, rests⟩

theorem fields_readsBack {fields : List (String × Json)}
    (integers : Json.fieldsIntegersOnly fields = true)
    (each : ∀ field ∈ fields, ValueReadsBack printFloat field.2) :
    ReadsBack (fun fields => [','].intercalate (fields.map (fieldChars printFloat)))
      (fun rest => rest.head? = some (Char.ofNat 0x7D))
      (fun others => ∀ other ∈ others, other.2.integersOnly = true) fields :=
  intercalate_readsBack (by decide) (followsValue_of_mark (by decide))
    (followsValue_of_mark (by decide)) (fun field rest _ => head?_fieldChars printFloat field rest)
    (fun field member => field_readsBack printFloat (each field member))
    (Json.fieldsIntegersOnly_iff.mp integers)

theorem kind_eq_of_text {value other : Json} {rest others : List Char}
    (integers : value.integersOnly = true) (otherIntegers : other.integersOnly = true)
    (same : valueChars printFloat value ++ rest = valueChars printFloat other ++ others) :
    value.kind = other.kind := by
  obtain ⟨first, tail, text, kind⟩ := compactJson_start printFloat integers
  obtain ⟨otherFirst, otherTail, otherText, otherKind⟩ :=
    compactJson_start printFloat otherIntegers
  rw [valueChars, valueChars, text, otherText] at same
  obtain ⟨rfl, -⟩ := List.cons.inj same
  exact Option.some.inj (kind.symm.trans otherKind)

theorem number_readsBack {number : JsonNumber}
    (isInteger : (Json.number number).integersOnly = true) :
    ReadsBack (fun number => (numberText printFloat number).toList) FollowsValue
      (fun number => (Json.number number).integersOnly = true) number :=
  readsBack_of_run
    (fun _ isInteger _ member => isNumberChar_of_mem_numberText printFloat isInteger member)
    (fun _ _ isInteger otherIsInteger same => numberText_injective printFloat isInteger
      otherIsInteger (String.toList_injective same))
    isInteger

mutual

/-- By the kind that both texts begin with; arrays and objects go through their items. -/
theorem value_readsBack : ∀ value : Json, value.integersOnly = true →
    ValueReadsBack printFloat value
  | value, integers => by
      intro other rest others otherGood followed otherFollowed same
      have sameKind := kind_eq_of_text printFloat integers otherGood same
      cases value with
      | null =>
          cases other with
          | null => exact ⟨rfl, List.append_cancel_left same⟩
          | _ => cases sameKind
      | bool flag =>
          cases other with
          | bool otherFlag =>
              rw [valueChars, valueChars, compactJson, compactJson] at same
              cases flag with
              | true =>
                  cases otherFlag with
                  | true => exact ⟨rfl, List.append_cancel_left same⟩
                  | false => exact absurd (List.cons.inj same).1 (by decide)
              | false =>
                  cases otherFlag with
                  | true => exact absurd (List.cons.inj same).1 (by decide)
                  | false => exact ⟨rfl, List.append_cancel_left same⟩
          | _ => cases sameKind
      | number number =>
          cases other with
          | number otherNumber =>
              obtain ⟨rfl, rests⟩ := number_readsBack printFloat integers otherGood followed
                otherFollowed same
              exact ⟨rfl, rests⟩
          | _ => cases sameKind
      | string text =>
          cases other with
          | string otherText =>
              obtain ⟨rfl, rests⟩ := quoteJson_readsBack text trivial trivial trivial same
              exact ⟨rfl, rests⟩
          | _ => cases sameKind
      | array items =>
          cases other with
          | array otherItems =>
              simp only [valueChars_array, List.cons_append, List.cons.injEq, true_and,
                List.append_assoc] at same
              obtain ⟨rfl, rests⟩ := items_readsBack printFloat integers
                (allItems_readsBack items integers) (Json.itemsIntegersOnly_iff.mp otherGood)
                rfl rfl same
              exact ⟨rfl, (List.cons.inj rests).2⟩
          | _ => cases sameKind
      | object fields =>
          cases other with
          | object otherFields =>
              simp only [valueChars_object, List.cons_append, List.cons.injEq, true_and,
                List.append_assoc] at same
              obtain ⟨rfl, rests⟩ := fields_readsBack printFloat integers
                (allFields_readsBack fields integers) (Json.fieldsIntegersOnly_iff.mp otherGood)
                rfl rfl same
              exact ⟨rfl, (List.cons.inj rests).2⟩
          | _ => cases sameKind

theorem allItems_readsBack : ∀ items : List Json, Json.itemsIntegersOnly items = true →
    ∀ item ∈ items, ValueReadsBack printFloat item
  | [], _ => fun _ member => nomatch member
  | item :: rest, integers => by
      rw [Json.itemsIntegersOnly, Bool.and_eq_true] at integers
      exact List.forall_mem_cons.mpr
        ⟨value_readsBack item integers.1, allItems_readsBack rest integers.2⟩

theorem allFields_readsBack : ∀ fields : List (String × Json),
    Json.fieldsIntegersOnly fields = true →
    ∀ field ∈ fields, ValueReadsBack printFloat field.2
  | [], _ => fun _ member => nomatch member
  | (key, value) :: rest, integers => by
      rw [Json.fieldsIntegersOnly, Bool.and_eq_true] at integers
      exact List.forall_mem_cons.mpr
        ⟨value_readsBack value integers.1, allFields_readsBack rest integers.2⟩

end

theorem compactJson_injective {value other : Json} (integers : value.integersOnly = true)
    (otherIntegers : other.integersOnly = true)
    (same : compactJson printFloat value = compactJson printFloat other) : value = other :=
  (value_readsBack printFloat value integers).injective otherIntegers
    (fun _ member => nomatch member) (congrArg String.toList same)

/-! ### Control characters -/

/-- No character is a control character. -/
def Printable (chars : List Char) : Prop := ∀ c ∈ chars, 32 ≤ c.toNat

instance (chars : List Char) : Decidable (Printable chars) :=
  decidable_of_iff ((chars.all fun c => Nat.ble 32 c.toNat) = true) (by simp [Printable])

theorem printable_append {chars others : List Char} :
    Printable (chars ++ others) ↔ Printable chars ∧ Printable others :=
  List.forall_mem_append

theorem printable_intercalate {separator : Char} (visible : 32 ≤ separator.toNat)
    {texts : List (List Char)} (each : ∀ text ∈ texts, Printable text) :
    Printable ([separator].intercalate texts) := by
  cases texts with
  | nil => exact fun _ member => nomatch member
  | cons first rest =>
      obtain ⟨isPrintable, each⟩ := List.forall_mem_cons.mp each
      rw [intercalate_cons, printable_append]
      refine ⟨isPrintable, fun c member => ?_⟩
      obtain ⟨text, isText, member⟩ := List.mem_flatMap.mp member
      rcases List.mem_cons.mp member with rfl | inText
      · exact visible
      · exact each text isText c inText

theorem printable_escape_control {n : Nat} (control : n < 32) :
    Printable (escapeJsonChar (Char.ofNat n)) := by
  interval_cases n <;> decide

theorem printable_escapeJsonChar (c : Char) : Printable (escapeJsonChar c) := by
  by_cases control : c.toNat < 32
  · have named : Char.ofNat c.toNat = c := Char.ofNat_toNat c
    exact named ▸ printable_escape_control control
  · have letters : ∀ escape ∈ shortEscapes, 32 ≤ escape.2.toNat := by decide
    rw [escapeJsonChar]
    cases escaped : shortEscapes.lookup c with
    | none =>
        simp only [if_neg control]
        exact fun other member => List.mem_singleton.mp member ▸ not_lt.mp control
    | some letter =>
        obtain ⟨before, after, isTable, -⟩ := List.lookup_eq_some_iff.mp escaped
        have visible : 32 ≤ letter.toNat := letters (c, letter) (by simp [isTable])
        exact List.forall_mem_cons.mpr
          ⟨by decide, fun other member => List.mem_singleton.mp member ▸ visible⟩

theorem printable_quoteJson (text : String) : Printable (quoteJson text).toList := by
  rw [quoteJson, String.toList_ofList, quotedChars]
  refine List.forall_mem_cons.mpr ⟨by decide, printable_append.mpr ⟨?_, by decide⟩⟩
  intro c member
  obtain ⟨source, -, member⟩ := List.mem_flatMap.mp member
  exact printable_escapeJsonChar source c member

theorem printable_numberText {number : JsonNumber}
    (isInteger : (Json.number number).integersOnly = true) :
    Printable (numberText printFloat number).toList := by
  intro c member
  have isNumber := isNumberChar_of_mem_numberText printFloat isInteger member
  rw [isNumberChar, Bool.or_eq_true, decide_eq_true_eq] at isNumber
  rcases isNumber with isDigit | rfl
  · simp only [Char.isDigit, Bool.and_eq_true, decide_eq_true_eq] at isDigit
    have low := UInt32.le_iff_toNat_le.mp isDigit.1
    exact le_trans (by decide) low
  · decide

mutual

theorem printable_compactJson : ∀ value : Json, value.integersOnly = true →
    Printable (valueChars printFloat value)
  | .null, _ => by rw [valueChars, compactJson]; decide
  | .bool true, _ | .bool false, _ => by rw [valueChars, compactJson]; decide
  | .number held, integers => by
      rw [valueChars, compactJson]
      exact printable_numberText printFloat integers
  | .string text, _ => by
      rw [valueChars, compactJson]
      exact printable_quoteJson text
  | .array items, integers => by
      rw [Json.integersOnly] at integers
      rw [valueChars_array]
      refine List.forall_mem_cons.mpr ⟨by decide, printable_append.mpr ⟨?_, by decide⟩⟩
      exact printable_intercalate (by decide)
        (List.forall_mem_map.mpr (printable_compactJsonItems items integers))
  | .object fields, integers => by
      rw [Json.integersOnly] at integers
      rw [valueChars_object]
      refine List.forall_mem_cons.mpr ⟨by decide, printable_append.mpr ⟨?_, by decide⟩⟩
      exact printable_intercalate (by decide)
        (List.forall_mem_map.mpr (printable_compactJsonFields fields integers))

theorem printable_compactJsonItems : ∀ items : List Json,
    Json.itemsIntegersOnly items = true → ∀ item ∈ items, Printable (valueChars printFloat item)
  | [], _ => fun _ member => nomatch member
  | item :: rest, integers => by
      rw [Json.itemsIntegersOnly, Bool.and_eq_true] at integers
      exact List.forall_mem_cons.mpr ⟨printable_compactJson item integers.1,
        printable_compactJsonItems rest integers.2⟩

theorem printable_compactJsonFields : ∀ fields : List (String × Json),
    Json.fieldsIntegersOnly fields = true →
    ∀ field ∈ fields, Printable (fieldChars printFloat field)
  | [], _ => fun _ member => nomatch member
  | (key, value) :: rest, integers => by
      rw [Json.fieldsIntegersOnly, Bool.and_eq_true] at integers
      refine List.forall_mem_cons.mpr ⟨?_, printable_compactJsonFields rest integers.2⟩
      exact printable_append.mpr ⟨printable_quoteJson key,
        List.forall_mem_cons.mpr ⟨by decide, printable_compactJson value integers.1⟩⟩

end

end reading

end MandoForge
