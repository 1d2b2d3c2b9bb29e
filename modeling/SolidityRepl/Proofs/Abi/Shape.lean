import SolidityRepl.Abi.Function
import SolidityRepl.Proofs.Abi.Schema
import SolidityRepl.Proofs.Text.Split

/-!
# Decoded values as what they are meant as

A decoded value follows its description: an array loses the outermost size of the type, which is the
last one written, and a struct gets the name in the compiler's words for it. Those words keep their
sizes, so it matters whether a struct is an item of an array.
-/

namespace SolidityRepl

/-! ## Structs of a value -/

mutual

/-- Whether all structs of a value pass a test of whether they are items of an array and of what
they are called. -/
def Value.structsMeet (test : Bool → String → Bool) (inArray : Bool) : Value → Bool
  | .list values => Value.itemsMeet test values
  | .struct name fields => test inArray name && Value.fieldsMeet test fields
  | _ => true

def Value.itemsMeet (test : Bool → String → Bool) : List Value → Bool
  | [] => true
  | v :: rest => v.structsMeet test true && Value.itemsMeet test rest

def Value.fieldsMeet (test : Bool → String → Bool) : List (String × Value) → Bool
  | [] => true
  | (_, v) :: rest => v.structsMeet test false && Value.fieldsMeet test rest

end

theorem Value.fieldsMeet_eq (test : Bool → String → Bool) (fields : List (String × Value)) :
    Value.fieldsMeet test fields = (fields.map (·.2)).all (·.structsMeet test false) := by
  induction fields with
  | nil => rfl
  | cons field rest ih => rw [Value.fieldsMeet, ih, List.map_cons, List.all_cons]

theorem Address.ofJson_prefixedHex (a : Address) :
    Address.ofJson (.str (Bytes.prefixedHex a.bytes)) = .ok a := by
  have digits : Address.unmarked (Bytes.prefixedHex a.bytes).toList = Bytes.hexDigits a.bytes := by
    simp [Bytes.prefixedHex, Bytes.hex, Address.unmarked]
  have all : (Bytes.hexDigits a.bytes).all (fun c => (Text.hexValue? c).isSome) = true := by
    rw [List.all_eq_true]
    intro c among
    obtain ⟨b, _, digit⟩ := List.mem_flatMap.mp among
    have small : b.toNat < 256 := b.toNat_lt
    rcases List.mem_cons.mp digit with rfl | digit
    · rw [Text.hexValue?_hexDigit (by omega)]
      rfl
    · rw [List.mem_singleton.mp digit, Text.hexValue?_hexDigit (by omega)]
      rfl
  have given : Address.ofText? (Bytes.prefixedHex a.bytes) = some a := by
    rw [Address.ofText?, digits]
    simp only [all, if_true, Bytes.ofHexDigits?_hexDigits, Option.bind_some,
      Address.ofBytes?_bytes]
  simp only [Address.ofJson, given]

end SolidityRepl

namespace SolidityRepl.Abi

open Json Text

/-! ## Types without their outermost size -/

/-- The type that a value is meant as: a struct by the word for structs. -/
def Param.text : Param → List Char
  | .leaf l => l.text
  | .array item size => item.text ++ dimensionText size
  | .struct _ _ _ => "tuple".toList

theorem itemType?_text (type : List Char) (size : Option Nat) :
    itemType? (type ++ dimensionText size) = some type := by
  have behind : ∃ inner, dimensionText size = '[' :: (inner ++ [']']) ∧ ∀ c ∈ inner, c ≠ '[' := by
    cases size with
    | none => exact ⟨[], rfl, fun _ among => nomatch among⟩
    | some n =>
      refine ⟨Nat.toDigits 10 n, rfl, ?_⟩
      rintro c among rfl
      exact absurd (isDigit_of_mem among) (by decide)
  obtain ⟨inner, text, other⟩ := behind
  have last : (type ++ dimensionText size).getLast? = some ']' := by
    rw [text, List.append_cons, ← List.append_assoc, List.getLast?_append]
    rfl
  have cut : splitAtLast? '[' (type ++ dimensionText size) = some (type, inner ++ [']']) := by
    rw [text]
    refine splitAtLast?_append fun c among => ?_
    rcases List.mem_append.mp among with among | among
    · exact other c among
    · rw [List.mem_singleton.mp among]
      decide
  rw [itemType?, last, cut]
  rfl

/-- The type that the description of a parameter says, with the sizes of the arrays around it. -/
theorem typeIn_described {wording : Wording} : ∀ (p : Param) (around : List (Option Nat))
    {d : Json}, p.Described wording around d → typeIn d = .ok (p.text ++ dimensionTexts around)
  | .leaf l, around, d, ⟨type, _⟩ => by
    rw [typeIn, required_of_get? type, Param.text]
    exact congrArg Except.ok String.toList_ofList
  | .array item size, around, d, described => by
    have said := typeIn_described item (size :: around) described
    rwa [dimensionTexts, List.flatMap_cons, ← List.append_assoc] at said
  | .struct _ _ _, around, d, ⟨type, _⟩ => by
    rw [typeIn, required_of_get? type, Param.text]
    exact congrArg Except.ok String.toList_ofList

/-! ## Values -/

theorem shapeAs_single {type : List Char} {v : Value} (d : Json) {c : Char} {cs : List Char}
    (text : type = c :: cs) (first : c ≠ 'a') (single : ∀ values, v ≠ .tuple values) :
    shapeAs d type v = .ok v := by
  have other : (type == "address".toList) = false := by
    apply beq_false_of_ne
    intro same
    injection text.symm.trans same with same _
    exact first same
  rw [shapeAs]
  · exact if_neg (Bool.eq_false_iff.mp other)
  · exact fun values same => single values same

theorem Leaf.shapeAs_raw {l : Leaf} {v : Value} (d : Json) (fits : l.Fits v) :
    shapeAs d l.text v.raw = .ok v := by
  cases l <;> cases v <;> try exact absurd fits id
  case address a =>
    show (Address.ofJson (.str (Bytes.prefixedHex a.bytes))).map Value.address = _
    rw [Address.ofJson_prefixedHex]
    rfl
  all_goals exact shapeAs_single d rfl (by decide) fun _ same => nomatch same

/-- Wording under which a struct gets its name if it passes a test, and no name otherwise. -/
def Wording.Gives (wording : Wording) (test : Bool → String → Bool) : Prop :=
  ∀ internal name names around, wording internal name names around →
    areDistinct (fieldNames names) = true ∧
      ∃ words, internal.getD (.str "") = .str words ∧
        if test (!around.isEmpty) name then structName words = name ∧ isFreeIdentifier name = true
        else isFreeIdentifier (structName words) = false

theorem mapM_required_names {components : List Json} {names : List String}
    (named : components.map (·.get? "name") = names.map fun name => some (.str name)) :
    components.mapM (fun c => c.required "name") = .ok (names.map Json.str) := by
  induction components generalizing names with
  | nil =>
    cases names with
    | nil => rfl
    | cons name names => cases named
  | cons c components ih =>
    cases names with
    | nil => cases named
    | cons name names =>
      rw [List.map_cons, List.map_cons] at named
      injection named with first others
      rw [List.mapM_cons, required_of_get? first, ih others]
      rfl

variable {wording : Wording} {test : Bool → String → Bool}

/-- A struct's name and the names of its fields, if it passes the test. -/
theorem structOf_described {name : String} {names : List String} {fields : List Param}
    {around : List (Option Nat)} {d : Json} {components : List Json} (gives : wording.Gives test)
    (described : (Param.struct name names fields).Described wording around d)
    (given : d.get? "components" = some (.arr components)) :
    structOf d =
      if test (!around.isEmpty) name then .ok (components, name, fieldNames names)
      else .error .invalidValue := by
  obtain ⟨type, said, components', given', named, -⟩ := described
  cases given.symm.trans given'
  obtain ⟨own, rfl, -⟩ := exists_fields type
  obtain ⟨distinct, words, internal, outcome⟩ := gives _ _ _ _ said
  have shown : (names.map Json.str).map Json.shown = names := by
    rw [List.map_map]
    exact List.map_id names
  have words' : Json.optional (.obj own) "internalType" (.str "") = .ok (.str words) :=
    congrArg Except.ok internal
  rw [structOf, required_of_get? given]
  simp only [bind, Except.bind, Json.parts, mapM_required_names named, words', shown]
  by_cases passes : test (!around.isEmpty) name = true
  · rw [if_pos passes] at outcome ⊢
    obtain ⟨rfl, free⟩ := outcome
    simp only [free, distinct, Bool.not_true, Bool.false_eq_true, if_false]
    rfl
  · rw [if_neg passes] at outcome ⊢
    simp only [outcome, Bool.not_false, if_true]
    rfl

/-- Items are what they are meant as if each is. -/
theorem shapeItems_raw {d : Json} {type : List Char} {values : List Value}
    (each : ∀ v ∈ values, shapeAs d type v.raw =
      if v.structsMeet test true then .ok v else .error .invalidValue) :
    shapeItems d type (Value.rawAll values) =
      if Value.itemsMeet test values then .ok values else .error .invalidValue := by
  induction values with
  | nil => rfl
  | cons v rest ih =>
    have own := each v List.mem_cons_self
    have others := ih fun v among => each v (List.mem_cons_of_mem _ among)
    rw [Value.rawAll, shapeItems, own, others, Value.itemsMeet]
    cases v.structsMeet test true with
    | false => rfl
    | true => cases Value.itemsMeet test rest <;> rfl

mutual

/-- **A decoded value is what it is meant as if all structs of the value get their names**, by
induction on the parameter. Within an array the type loses a size, and the description does not. -/
theorem Param.shapeAs_raw (gives : wording.Gives test) : ∀ (p : Param) (around : List (Option Nat))
    {d : Json} {v : Value}, p.Described wording around d → p.Fits v →
    shapeAs d p.text v.raw =
      if v.structsMeet test (!around.isEmpty) then .ok v else .error .invalidValue
  | .leaf l, around, d, v, _, fits => by
    have single : v.structsMeet test (!around.isEmpty) = true := by
      cases l <;> cases v <;> first | exact absurd fits id | rfl
    rw [single, if_pos rfl]
    exact Leaf.shapeAs_raw d fits
  | .array item size, around, d, .list values, described, fits => by
    have each := shapeItems_raw fun v among =>
      Param.shapeAs_raw gives item (size :: around) described (fits.2 v among)
    rw [Value.raw, Param.text, shapeAs, itemType?_text, Value.structsMeet]
    simp only [each]
    cases Value.itemsMeet test values <;> rfl
  | .struct name names fields, around, d, .struct _ values, described, ⟨rfl, named, fits⟩ => by
    have described' := described
    obtain ⟨_, _, components, given, _, all⟩ := described'
    have own := structOf_described gives described given
    have inside := Param.shapeFields_raw gives fields all fits
    have whole : (fieldNames names).zip (values.map (·.2)) = values :=
      (List.zip_of_prod named rfl).symm
    have word : itemType? "tuple".toList = none := by decide
    rw [Value.raw, Value.rawFields_eq, Param.text, shapeAs, word, Value.structsMeet,
      Value.fieldsMeet_eq]
    simp only [own, beq_self_eq_true, if_true]
    cases test (!around.isEmpty) name with
    | false => rfl
    | true =>
      show (shapeFields components (Value.rawAll (values.map (·.2))) >>= _) = _
      rw [inside]
      cases (values.map (·.2)).all (·.structsMeet test false) with
      | false => rfl
      | true =>
        show Except.ok (Value.struct name ((fieldNames names).zip (values.map (·.2)))) = _
        rw [whole]
        rfl

/-- The fields of a struct are what they are meant as. -/
theorem Param.shapeFields_raw (gives : wording.Gives test) : ∀ (params : List Param)
    {descriptions : List Json} {values : List Value},
    Param.AllDescribed wording params descriptions → Param.FitAll params values →
    shapeFields descriptions (Value.rawAll values) =
      if values.all (·.structsMeet test false) then .ok values else .error .invalidValue
  | [], [], [], _, _ => rfl
  | p :: params, d :: descriptions, v :: values, ⟨first, rest⟩, ⟨fits, fit⟩ => by
    have own := Param.shapeAs_raw gives p [] first fits
    have others := Param.shapeFields_raw gives params rest fit
    have type := typeIn_described p [] first
    rw [dimensionTexts, List.flatMap_nil, List.append_nil] at type
    rw [Value.rawAll, shapeFields, type, List.all_cons]
    show (shapeAs d p.text v.raw >>= _) = _
    rw [own, others]
    show (if v.structsMeet test false then _ else _) >>= _ = _
    cases v.structsMeet test false with
    | false => rfl
    | true => cases values.all (·.structsMeet test false) <;> rfl

end

theorem shapeAll_eq (descriptions : List Json) (values : List Value) :
    shapeAll descriptions values = shapeFields descriptions values := by
  induction descriptions generalizing values with
  | nil => cases values <;> rfl
  | cons d rest ih =>
    cases values with
    | nil => rfl
    | cons v values =>
      rw [shapeAll, shapeFields, ih, shape]
      simp only [bind_assoc]

end SolidityRepl.Abi
