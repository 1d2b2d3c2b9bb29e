import SolidityRepl.Proofs.Abi.Frame
import SolidityRepl.Proofs.Abi.Names

/-!
# What a function gave back

A function that says what it gives back is asked, and the bytes that come are the encoding of some
values. The values come back if the names of the structs in them do.
-/

namespace SolidityRepl

mutual

theorem Value.structsMeet_any : ∀ (v : Value) (inArray : Bool),
    v.structsMeet (fun _ _ => true) inArray = true
  | .list values, _ => Value.itemsMeet_any values
  | .struct _ fields, _ => Value.fieldsMeet_any fields
  | .nothing, _ | .bool _, _ | .int _, _ | .fraction _ _, _ | .bytes _, _ | .text _, _
  | .address _, _ | .tuple _, _ => rfl

theorem Value.itemsMeet_any : ∀ values : List Value, Value.itemsMeet (fun _ _ => true) values = true
  | [] => rfl
  | v :: rest => by
    rw [Value.itemsMeet, Value.structsMeet_any v, Value.itemsMeet_any rest]
    rfl

theorem Value.fieldsMeet_any : ∀ fields : List (String × Value),
    Value.fieldsMeet (fun _ _ => true) fields = true
  | [] => rfl
  | (_, v) :: rest => by
    rw [Value.fieldsMeet, Value.structsMeet_any v, Value.fieldsMeet_any rest]
    rfl

end

end SolidityRepl

namespace SolidityRepl.Abi

open Text

variable {wording : Wording} {test : Bool → String → Bool} {function : Json} {params : List Param}
  {values : List Value}

/-- What a function gives back is decoded by the types that its interface describes. -/
theorem outputsOf_described {outputs : List Json}
    (given : function.get? "outputs" = some (.arr outputs))
    (described : Param.AllDescribed wording params outputs) (sized : Param.AreSized params)
    (data : Bytes) :
    outputsOf function data =
      decodeAll (Param.types params) data >>= fun values =>
        (shapeFields outputs values).map together := by
  have said : schemasIn (.arr outputs) =
      .ok ((Param.schemas params).map fun s => .str (String.ofList s)) :=
    schemasOf_described params described
  have types := ofText_schemas sized
  rw [outputsOf, required_of_get? given]
  simp only [bind, Except.bind, said, Json.parts, shapeAll_eq] at types ⊢
  rw [types]
  rfl

/-- **Decoding undoes encoding**, if all structs among the values get their names. -/
theorem outputsOf_encodeAll (gives : wording.Gives test) (returns : Returns wording function params)
    (sized : Param.AreSized params) (fit : Param.FitAll params values)
    (short : (encodeAll params values).length < Nat.pow 2 63) :
    outputsOf function (encodeAll params values) =
      if values.all (·.structsMeet test false) then .ok (together values)
      else .error .invalidValue := by
  obtain ⟨outputs, given, described⟩ := returns
  have decoded := decodeAll_encodeAll sized fit short
  have shaped := Param.shapeFields_raw gives params described fit
  rw [outputsOf_described given described sized, decoded]
  show (shapeFields outputs (Value.rawAll values)).map together = _
  rw [shaped]
  cases values.all (·.structsMeet test false) <;> rfl

theorem outputsOf_unread {outputs types : List Json} {e : Failure}
    (given : function.get? "outputs" = some (.arr outputs)) (said : schemasOf outputs = .ok types)
    (unread : types.mapM (fun type : Json => type.asText >>= AbiType.ofText) = .error e)
    (data : Bytes) : outputsOf function data = .error e := by
  have schemas : schemasIn (.arr outputs) = .ok types := said
  rw [outputsOf, required_of_get? given]
  simp only [bind, Except.bind, schemas] at unread ⊢
  rw [unread]

/-! ## Functions that give back one value -/

/-- A function without inputs that has one output of a type. -/
def answering (type : String) (more : List (String × Json)) : Json :=
  .obj [("type", .str "function"), ("name", .str "main"), ("inputs", .arr []),
    ("outputs", .arr [.obj (("name", .str "") :: ("type", .str type) :: more)])]

/-- The rest of the description of a struct with one field, which is a number. -/
def oneField (internal : String) : List (String × Json) :=
  [("internalType", .str internal),
    ("components", .arr [.obj [("name", .str "x"), ("type", .str "uint256")]])]

def number : Param := .leaf (.uint 256)

/-- A struct with one field, which is a number. -/
def single (name : String) : Param := .struct name ["x"] [number]

theorem number_sized : number.IsSized := ⟨rfl, by decide, by decide⟩

theorem single_sized (name : String) : (single name).IsSized :=
  ⟨List.cons_ne_nil _ _, number_sized, trivial⟩

theorem single_fits (name : String) : (single name).Fits (.struct name [("x", .int 1)]) :=
  ⟨rfl, by decide +kernel, ⟨by decide, by decide⟩, trivial⟩

theorem ascii_x : ∀ name ∈ ["x"], IsAscii name := by
  intro name among
  rw [List.mem_singleton.mp among]
  exact isAscii_of_all (by decide)

/-! ## Structs in the compiler's words -/

/-- A struct is described by the compiler's words, which say the sizes of the arrays around it. -/
def compiled : Wording := fun internal name names around =>
  IsPlain name ∧ (∀ name ∈ names, IsAscii name) ∧
    ∃ scope, internal = some (.str (compilerWords scope name around))

/-- A struct that is no item of an array and not called by a reserved word. -/
def isBare (inArray : Bool) (name : String) : Bool := !inArray && !reservedWords.contains name

theorem compiled_gives : compiled.Gives isBare := by
  rintro internal name names around ⟨plain, ascii, scope, rfl⟩
  refine ⟨areDistinct_fieldNames ascii, _, rfl, ?_⟩
  rw [structName_compilerWords scope around plain]
  cases around with
  | nil =>
    have own : String.ofList (name.toList ++ dimensionTexts []) = name := by
      rw [dimensionTexts, List.flatMap_nil, List.append_nil, String.ofList_toList]
    rw [own]
    by_cases reserved : reservedWords.contains name = true
    · simp only [isBare, isFreeIdentifier, reserved, List.isEmpty_nil, Bool.not_true,
        Bool.and_false, Bool.false_eq_true, if_false]
    · have free : isFreeIdentifier name = true := by
        simp only [isFreeIdentifier, plain.isIdentifier, reserved, Bool.not_false, Bool.and_self]
      simp only [isBare, reserved, List.isEmpty_nil, Bool.not_true, Bool.not_false, Bool.and_self,
        if_true, free, and_self]
  | cons size sizes =>
    rw [isBare, List.isEmpty_cons, Bool.not_false, Bool.not_true, Bool.false_and,
      if_neg Bool.false_ne_true]
    exact isFreeIdentifier_sizes plain

/-- **The values that a compiled function gave back are those that were encoded exactly if no struct
among them is an item of an array**, and none has a reserved word as its name. -/
theorem outputsOf_compiled (returns : Returns compiled function params)
    (sized : Param.AreSized params) (fit : Param.FitAll params values)
    (short : (encodeAll params values).length < Nat.pow 2 63) :
    outputsOf function (encodeAll params values) =
      if values.all (·.structsMeet isBare false) then .ok (together values)
      else .error .invalidValue :=
  outputsOf_encodeAll compiled_gives returns sized fit short

theorem outputsOf_compiled_single :
    Returns compiled (answering "tuple" (oneField "struct C.S")) [single "S"] ∧
      Param.AreSized [single "S"] ∧ Param.FitAll [single "S"] [.struct "S" [("x", .int 1)]] ∧
      (encodeAll [single "S"] [.struct "S" [("x", .int 1)]]).length < Nat.pow 2 63 ∧
      outputsOf (answering "tuple" (oneField "struct C.S"))
        (encodeAll [single "S"] [.struct "S" [("x", .int 1)]]) =
          .ok (.struct "S" [("x", .int 1)]) := by
  have returns : Returns compiled (answering "tuple" (oneField "struct C.S")) [single "S"] :=
    ⟨_, rfl, ⟨rfl, ⟨isPlain_of_all rfl (by decide) (by decide), ascii_x, some "C", rfl⟩, _, rfl, rfl,
      ⟨rfl, rfl⟩, trivial⟩, trivial⟩
  have sized : Param.AreSized [single "S"] := ⟨single_sized "S", trivial⟩
  have fit : Param.FitAll [single "S"] [.struct "S" [("x", .int 1)]] := ⟨single_fits "S", trivial⟩
  have short : (encodeAll [single "S"] [.struct "S" [("x", .int 1)]]).length < Nat.pow 2 63 := by
    decide
  exact ⟨returns, sized, fit, short, outputsOf_compiled returns sized fit short⟩

/-- An array with one struct in it does not come back: the name in the compiler's words for it has
brackets behind. -/
theorem outputsOf_compiled_array :
    Returns compiled (answering "tuple[]" (oneField "struct C.S[]")) [.array (single "S") none] ∧
      Param.AreSized [.array (single "S") none] ∧
      Param.FitAll [.array (single "S") none] [.list [.struct "S" [("x", .int 1)]]] ∧
      outputsOf (answering "tuple[]" (oneField "struct C.S[]"))
        (encodeAll [.array (single "S") none] [.list [.struct "S" [("x", .int 1)]]]) =
        .error .invalidValue := by
  have returns : Returns compiled (answering "tuple[]" (oneField "struct C.S[]"))
      [.array (single "S") none] :=
    ⟨_, rfl, ⟨rfl, ⟨isPlain_of_all rfl (by decide) (by decide), ascii_x, some "C", rfl⟩, _, rfl, rfl,
      ⟨rfl, rfl⟩, trivial⟩, trivial⟩
  have sized : Param.AreSized [.array (single "S") none] :=
    ⟨⟨single_sized "S", fun n given => nomatch given⟩, trivial⟩
  have fit : Param.FitAll [.array (single "S") none] [.list [.struct "S" [("x", .int 1)]]] := by
    refine ⟨⟨(fun n given => nomatch given), fun v among => ?_⟩, trivial⟩
    rw [List.mem_singleton.mp among]
    exact single_fits "S"
  exact ⟨returns, sized, fit, outputsOf_encodeAll compiled_gives returns sized fit (by decide)⟩

/-! ## Structs with names of their own -/

/-- A struct without words for its type has the name for all such; words for one say a name of some
kind. The names of the components can stand together. -/
def named (valid : String → Bool) : Wording := fun internal name names _ =>
  areDistinct (fieldNames names) = true ∧
    (internal = none ∧ name = unnamed ∨
      ∃ words, internal = some (.str words) ∧ structName words = name ∧ valid name = true)

theorem named_gives : (named isFreeIdentifier).Gives fun _ _ => true := by
  rintro internal name names around ⟨distinct, said⟩
  refine ⟨distinct, ?_⟩
  rcases said with ⟨rfl, rfl⟩ | ⟨words, rfl, rfl, free⟩
  · refine ⟨"", rfl, ?_⟩
    rw [if_pos rfl]
    exact ⟨by decide, by decide⟩
  · refine ⟨words, rfl, ?_⟩
    rw [if_pos rfl]
    exact ⟨rfl, free⟩

/-- **The values that a function gave back are those that were encoded**: none, one, or all
together, with structs named by their interface. -/
theorem outputsOf_named (returns : Returns (named isFreeIdentifier) function params)
    (sized : Param.AreSized params) (fit : Param.FitAll params values)
    (short : (encodeAll params values).length < Nat.pow 2 63) :
    outputsOf function (encodeAll params values) = .ok (together values) := by
  have all : values.all (·.structsMeet (fun _ _ => true) false) = true := by
    rw [List.all_eq_true]
    exact fun v _ => v.structsMeet_any false
  rw [outputsOf_encodeAll named_gives returns sized fit short, if_pos all]

theorem outputsOf_named_two :
    Returns (named isFreeIdentifier) (answering "tuple[2]" (oneField "S"))
      [.array (single "S") (some 2)] ∧
    Param.AreSized [.array (single "S") (some 2)] ∧
    Param.FitAll [.array (single "S") (some 2)]
      [.list [.struct "S" [("x", .int 1)], .struct "S" [("x", .int 1)]]] ∧
    (encodeAll [.array (single "S") (some 2)]
      [.list [.struct "S" [("x", .int 1)], .struct "S" [("x", .int 1)]]]).length < Nat.pow 2 63 ∧
    outputsOf (answering "tuple[2]" (oneField "S")) (encodeAll [.array (single "S") (some 2)]
      [.list [.struct "S" [("x", .int 1)], .struct "S" [("x", .int 1)]]]) =
      .ok (.list [.struct "S" [("x", .int 1)], .struct "S" [("x", .int 1)]]) := by
  have returns : Returns (named isFreeIdentifier) (answering "tuple[2]" (oneField "S"))
      [.array (single "S") (some 2)] :=
    ⟨_, rfl, ⟨rfl, ⟨areDistinct_fieldNames ascii_x, .inr ⟨"S", rfl, by decide, by decide⟩⟩, _, rfl,
      rfl, ⟨rfl, rfl⟩, trivial⟩, trivial⟩
  have sized : Param.AreSized [.array (single "S") (some 2)] := by
    refine ⟨⟨single_sized "S", ?_⟩, trivial⟩
    rintro n ⟨⟩
    exact ⟨by decide, few_digits (by decide) (by decide)⟩
  have fit : Param.FitAll [.array (single "S") (some 2)]
      [.list [.struct "S" [("x", .int 1)], .struct "S" [("x", .int 1)]]] := by
    refine ⟨⟨?_, ?_⟩, trivial⟩
    · rintro n ⟨⟩
      rfl
    · intro v among
      rw [List.eq_of_mem_replicate (n := 2) among]
      exact single_fits "S"
  have short : (encodeAll [.array (single "S") (some 2)]
      [.list [.struct "S" [("x", .int 1)], .struct "S" [("x", .int 1)]]]).length <
        Nat.pow 2 63 := by
    decide
  exact ⟨returns, sized, fit, short, outputsOf_named returns sized fit short⟩

/-- An array of no items is of no type that is read. -/
theorem ofText_zero : AbiType.ofText "uint256[0]" = .error .unparsableType := by
  have more : Written.dimensions "[0]".toList = ([], "[0]".toList) := by
    rw [Written.dimensions]
    rfl
  have digit : ∀ c ∈ "256[0]".toList.head?, c.isAlpha = false := by
    intro c first
    obtain rfl : '2' = c := Option.some.inj first
    rfl
  have read : Written.basic? ("uint".toList ++ "256[0]".toList) =
      some (.basic "uint" (.size 256) [], "[0]".toList) :=
    Written.basic?_base (List.all_eq_true.mp (by decide)) (by decide) digit rfl more
  have type : Written.type? "uint256[0]".toList (2 * "uint256[0]".toList.length + 2) =
      some (.basic "uint" (.size 256) [], "[0]".toList) := read
  have written : Written.ofText? "uint256[0]" = none := by
    rw [Written.ofText?, type]
    rfl
  rw [AbiType.ofText, written]
  rfl

/-- Arrays of a size, in an array of any size. -/
def numberArrays (n : Nat) : Param := .array (.array number (some n)) none

/-- The type of these arrays as it is written. -/
def numberArraysText (n : Nat) : List Char := "uint256".toList ++ dimensionTexts [some n, none]

/-- No type is read from a text with a number that is too long. -/
theorem ofText_overlong {s : String} (overlong : hasOverlong s.toList = true) :
    ∃ e, AbiType.ofText s = .error e := by
  rw [AbiType.ofText, overlong]
  cases Written.ofText? s with
  | none => exact ⟨_, rfl⟩
  | some w => exact ⟨_, rfl⟩

theorem hasOverlong_long {n : Nat} (long : Nat.pow 10 mostDigits ≤ n) :
    hasOverlong (Nat.toDigits 10 n) = true := by
  have many : mostDigits < (Nat.toDigits 10 n).length := by
    apply Nat.lt_of_not_le
    intro few
    have small := (length_toDigits_le_iff (by decide)).mp few
    exact Nat.lt_irrefl _ (Nat.lt_of_lt_of_le small long)
  rw [hasOverlong_digits]
  exact decide_eq_true many

theorem hasOverlong_numberArraysText {n : Nat} (digits : hasOverlong (Nat.toDigits 10 n) = true) :
    hasOverlong (numberArraysText n) = true := by
  have sizes : dimensionTexts [some n, none] = '[' :: (Nat.toDigits 10 n ++ ']' :: ['[', ']']) := by
    simp only [dimensionTexts, dimensionText, List.flatMap_cons, List.flatMap_nil, List.append_nil,
      List.cons_append, List.append_assoc, List.nil_append]
  have front := hasOverlong_append "uint256".toList (Nat.toDigits 10 n ++ ']' :: ['[', ']'])
    (show '['.isDigit = false from rfl)
  have back := hasOverlong_append (Nat.toDigits 10 n) ['[', ']'] (show ']'.isDigit = false from rfl)
  unfold numberArraysText
  simp only [sizes]
  simp only [front]
  simp only [back, digits, Bool.true_or, Bool.or_true]

theorem outputsOf_numberArrays {n : Nat} (long : Nat.pow 10 mostDigits ≤ n) :
    Returns (named isIdentifier) (answering (String.ofList (numberArraysText n)) [])
        [numberArrays n] ∧
      Param.FitAll [numberArrays n] [.list []] ∧
      ∃ e, outputsOf (answering (String.ofList (numberArraysText n)) [])
        (encodeAll [numberArrays n] [.list []]) = .error e := by
  refine ⟨⟨_, rfl, ⟨rfl, rfl⟩, trivial⟩, ⟨⟨?_, fun v among => nomatch among⟩, trivial⟩, ?_⟩
  · rintro n ⟨⟩
  · have text : hasOverlong (String.ofList (numberArraysText n)).toList = true := by
      rw [String.toList_ofList, hasOverlong_numberArraysText (hasOverlong_long long)]
    obtain ⟨e, unread⟩ := ofText_overlong text
    refine ⟨e, outputsOf_unread rfl rfl ?_ _⟩
    show (AbiType.ofText (String.ofList (numberArraysText n)) >>= _) = _
    rw [unread]
    rfl

/-- What is asked of sizes and names matters: values do not come back from an array of no items, a
struct without fields, an array of a size with too many digits, or a struct whose name is an
identifier and a reserved word. -/
theorem outputsOf_named_astray :
    (Returns (named isIdentifier) (answering "uint256[0]" []) [.array number (some 0)] ∧
      Param.FitAll [.array number (some 0)] [.list []] ∧
      outputsOf (answering "uint256[0]" []) (encodeAll [.array number (some 0)] [.list []]) =
        .error .unparsableType) ∧
    (Returns (named isIdentifier) (answering "tuple" [("components", .arr [])])
        [.struct unnamed [] []] ∧
      Param.FitAll [.struct unnamed [] []] [.struct unnamed []] ∧
      outputsOf (answering "tuple" [("components", .arr [])])
        (encodeAll [.struct unnamed [] []] [.struct unnamed []]) = .error .invalidValue) ∧
    (Returns (named isIdentifier)
        (answering (String.ofList (numberArraysText (Nat.pow 10 mostDigits))) [])
        [numberArrays (Nat.pow 10 mostDigits)] ∧
      Param.FitAll [numberArrays (Nat.pow 10 mostDigits)] [.list []] ∧
      ∃ e, outputsOf (answering (String.ofList (numberArraysText (Nat.pow 10 mostDigits))) [])
        (encodeAll [numberArrays (Nat.pow 10 mostDigits)] [.list []]) = .error e) ∧
    (Returns (named isIdentifier) (answering "tuple" (oneField "struct C.None")) [single "None"] ∧
      Param.FitAll [single "None"] [.struct "None" [("x", .int 1)]] ∧
      outputsOf (answering "tuple" (oneField "struct C.None"))
        (encodeAll [single "None"] [.struct "None" [("x", .int 1)]]) = .error .invalidValue) := by
  refine ⟨⟨?_, ?_, ?_⟩, ⟨?_, ?_, ?_⟩, outputsOf_numberArrays (Nat.le_refl _), ⟨?_, ?_, ?_⟩⟩
  · exact ⟨_, rfl, ⟨rfl, rfl⟩, trivial⟩
  · refine ⟨⟨?_, fun v among => nomatch among⟩, trivial⟩
    rintro n ⟨⟩
    rfl
  · refine outputsOf_unread rfl rfl ?_ _
    show (AbiType.ofText "uint256[0]" >>= _) = _
    rw [ofText_zero]
    rfl
  · exact ⟨_, rfl, ⟨rfl, ⟨by decide +kernel, .inl ⟨rfl, rfl⟩⟩, _, rfl, rfl, trivial⟩, trivial⟩
  · exact ⟨⟨rfl, rfl, trivial⟩, trivial⟩
  · exact outputsOf_unread rfl rfl rfl _
  · exact ⟨_, rfl, ⟨rfl, ⟨areDistinct_fieldNames ascii_x, .inr ⟨_, rfl, by decide, by decide⟩⟩, _,
      rfl, rfl, ⟨rfl, rfl⟩, trivial⟩, trivial⟩
  · exact ⟨single_fits "None", trivial⟩
  · have returns :
        Returns compiled (answering "tuple" (oneField "struct C.None")) [single "None"] :=
      ⟨_, rfl, ⟨rfl, ⟨isPlain_of_all rfl (by decide) (by decide), ascii_x, some "C", rfl⟩, _, rfl, rfl,
        ⟨rfl, rfl⟩, trivial⟩, trivial⟩
    exact outputsOf_encodeAll compiled_gives returns ⟨single_sized "None", trivial⟩
      ⟨single_fits "None", trivial⟩ (by decide)

end SolidityRepl.Abi
