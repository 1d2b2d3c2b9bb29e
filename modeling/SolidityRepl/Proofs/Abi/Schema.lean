import Mathlib.Data.List.Basic
import SolidityRepl.Proofs.Abi.Written

/-!
# Types that descriptions say

A description of a parameter says the type that is written for it. A struct's type is put together
from the descriptions of its components, which takes up the sizes behind the word for a struct.
-/

namespace SolidityRepl.Abi

open Json

/-! ## Fields of descriptions -/

theorem exists_fields {d v : Json} {key : String} (given : d.get? key = some v) :
    ∃ fields, d = .obj fields ∧ Keyed.get? key fields = some v := by
  cases d with
  | obj fields => exact ⟨fields, rfl, given⟩
  | _ => cases given

theorem required_of_get? {d v : Json} {key : String} (given : d.get? key = some v) :
    d.required key = .ok v := by
  obtain ⟨fields, rfl, found⟩ := exists_fields given
  rw [required, found]

theorem componentsIn_eq (fields : List (String × Json)) :
    componentsIn fields = (Keyed.get? "components" fields).map schemasIn := by
  induction fields with
  | nil => rfl
  | cons field rest ih =>
    obtain ⟨name, value⟩ := field
    rw [componentsIn, Keyed.get?]
    by_cases here : name = "components"
    · rw [if_pos here, if_pos here, Option.map_some]
    · rw [if_neg here, if_neg here, ih]

theorem mapM_asText (texts : List String) : (texts.map Json.str).mapM Json.asText = .ok texts := by
  induction texts with
  | nil => rfl
  | cons s rest ih => rw [List.map_cons, List.mapM_cons, ih]; rfl

theorem joined_texts (texts : List (List Char)) :
    joined (texts.map fun s => .str (String.ofList s)) =
      .ok (String.ofList ([','].intercalate texts)) := by
  have all := mapM_asText (texts.map String.ofList)
  rw [List.map_map] at all
  have back : (String.toList ∘ String.ofList) = id := funext fun _ => String.toList_ofList
  have text : ",".intercalate (texts.map String.ofList) =
      String.ofList ([','].intercalate texts) := by
    apply String.toList_inj.mp
    have whole : (String.ofList ([','].intercalate texts)).toList = [','].intercalate texts :=
      String.toList_ofList
    rw [String.toList_intercalate, List.map_map, back, List.map_id, whole]
    rfl
  show (List.mapM Json.asText (texts.map (Json.str ∘ String.ofList))).map _ = _
  rw [all, ← text]
  rfl

/-- The type of a struct from those of its components. -/
theorem structType_tuple {own : Keyed Json} {behind : List Char} (texts : List (List Char))
    (type : (Json.obj own).required "type" =
      .ok (.str (String.ofList ("tuple".toList ++ behind)))) :
    structType own (texts.map fun s => .str (String.ofList s)) =
      .ok (.str (String.ofList ('(' :: ([','].intercalate texts ++ ')' :: behind)))) := by
  have suffix : "tuple".toList.isPrefixOf? (String.ofList ("tuple".toList ++ behind)).toList =
      some behind :=
    (congrArg _ String.toList_ofList).trans (Text.isPrefixOf?_append _ behind)
  have text : "(" ++ String.ofList ([','].intercalate texts) ++ ")" ++ String.ofList behind =
      String.ofList ('(' :: ([','].intercalate texts ++ ')' :: behind)) := by
    apply String.toList_inj.mp
    simp only [String.toList_append, String.toList_ofList, List.append_assoc]
    rfl
  rw [structType, joined_texts, type]
  simp only [bind, Except.bind]
  rw [suffix, ← text]
  rfl

/-! ## Types -/

variable {wording : Wording}

mutual

/-- **A description says the type that is written for its parameter**, with the sizes of the arrays
around it behind. -/
theorem schemaOf_described : ∀ (p : Param) (around : List (Option Nat)) {d : Json},
    p.Described wording around d →
    schemaOf d = .ok (.str (String.ofList (p.schema ++ dimensionTexts around)))
  | .leaf l, around, d, ⟨type, plain⟩ => by
    obtain ⟨fields, rfl, -⟩ := exists_fields type
    have none : Keyed.get? "components" fields = none := plain
    rw [schemaOf, componentsIn_eq, none]
    exact required_of_get? type
  | .array item size, around, d, described => by
    have said := schemaOf_described item (size :: around) described
    rwa [dimensionTexts, List.flatMap_cons, ← List.append_assoc] at said
  | .struct _ _ fields, around, d, ⟨type, _, components, given, _, all⟩ => by
    obtain ⟨own, rfl, -⟩ := exists_fields type
    have found : Keyed.get? "components" own = some (.arr components) := given
    have parts := schemasOf_described fields all
    rw [schemaOf, componentsIn_eq, found, Option.map_some, schemasIn, parts, Param.schema,
      List.cons_append, List.append_assoc]
    exact structType_tuple (Param.schemas fields) (required_of_get? type)

/-- The descriptions of several parameters say the types that are written for them. -/
theorem schemasOf_described : ∀ (params : List Param) {descriptions : List Json},
    Param.AllDescribed wording params descriptions →
    schemasOf descriptions =
      .ok ((Param.schemas params).map fun s => .str (String.ofList s))
  | [], [], _ => rfl
  | p :: rest, d :: descriptions, ⟨first, others⟩ => by
    have said := schemaOf_described p [] first
    rw [dimensionTexts, List.flatMap_nil, List.append_nil] at said
    rw [schemasOf, said, schemasOf_described rest others]
    rfl

end

theorem ofText_schemas : ∀ {params : List Param}, Param.AreSized params →
    ((Param.schemas params).map fun s => .str (String.ofList s)).mapM
      (fun type : Json => type.asText >>= AbiType.ofText) = .ok (Param.types params)
  | [], _ => rfl
  | p :: rest, ⟨sized, others⟩ => by
    have own := ofText_schema sized
    rw [Param.schemas, List.map_cons, List.mapM_cons, ofText_schemas others]
    show (AbiType.ofText (String.ofList p.schema) >>= _) = _
    rw [own]
    rfl

end SolidityRepl.Abi
