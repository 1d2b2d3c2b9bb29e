import SolidityRepl.Proofs.Abi.Param
import SolidityRepl.Proofs.Text.Split
import SolidityRepl.Proofs.Text.Word

/-!
# Types that are written and read

The type of a parameter is written as its base with the sizes of the arrays around it behind, the
innermost first, and is read as the type that the parameter is encoded by.

* `Param.schema`: a parameter's type as it is written;
* `dimensions_read`: the sizes of arrays are read in their order;
* `Param.type?_schema`: what is read from the text of a type, before anything that ends it;
* `ofText_schema`: the type that is meant.
-/

namespace SolidityRepl.Abi

mutual

/-- The type of a parameter as it is written, a struct by the types of its fields. -/
def Param.schema : Param → List Char
  | .leaf l => l.text
  | .array item size => item.schema ++ dimensionText size
  | .struct _ _ fields => '(' :: ([','].intercalate (Param.schemas fields) ++ [')'])

def Param.schemas : List Param → List (List Char)
  | [] => []
  | p :: rest => p.schema :: Param.schemas rest

end

/-! ## Numbers -/

/-- No number but zero begins with a zero. -/
theorem toDigits_eq_cons {n : Nat} (positive : 1 ≤ n) :
    ∃ c ds, Nat.toDigits 10 n = c :: ds ∧ c ≠ '0' := by
  induction n using Nat.strongRecOn with
  | ind n ih =>
    by_cases small : n < 10
    · refine ⟨n.digitChar, [], Nat.toDigits_of_lt_base small, ?_⟩
      have shown : ∀ k : Fin 10, 1 ≤ k.val → k.val.digitChar ≠ '0' := by decide
      exact shown ⟨n, small⟩ positive
    · obtain ⟨c, ds, digits, first⟩ := ih (n / 10) (by omega) (by omega)
      refine ⟨c, ds ++ [(n % 10).digitChar], ?_, first⟩
      rw [Nat.toDigits_of_base_le (by decide) (by omega), digits]
      rfl

theorem isDigit_of_mem {n : Nat} {c : Char} (among : c ∈ Nat.toDigits 10 n) : c.isDigit = true :=
  Nat.isDigit_of_mem_toDigits (by decide) (by decide) among

theorem decimalValue_toDigits (n : Nat) : Text.decimalValue (Nat.toDigits 10 n) = n := by
  have value := Nat.ofDigitChars_ten_toDigits (n := n)
  rw [Nat.ofDigitChars_eq_foldl] at value
  have same : (fun (n : Nat) (c : Char) => n * 10 + (c.toNat - 48)) =
      fun n c => 10 * n + (c.toNat - '0'.toNat) := by
    funext n c
    rw [Nat.mul_comm]
    rfl
  rw [Text.decimalValue, same, value]

def Digitless (rest : List Char) : Prop := ∀ c ∈ rest.head?, c.isDigit = false

namespace Written

theorem number?_toDigits {n : Nat} {rest : List Char} (positive : 1 ≤ n) (ends : Digitless rest) :
    number? (Nat.toDigits 10 n ++ rest) = some (n, rest) := by
  obtain ⟨c, ds, digits, first⟩ := toDigits_eq_cons positive
  have all : ∀ d ∈ c :: ds, d.isDigit = true := fun d among => isDigit_of_mem (digits ▸ among)
  have value := decimalValue_toDigits n
  rw [digits] at value ⊢
  rw [number?, Text.takeWhile_until all ends, Text.dropWhile_until all ends]
  split
  · rename_i none
    cases none
  · rename_i zero
    cases zero
    exact absurd rfl first
  · rw [value]

/-! ## Sizes of arrays -/

/-- What can follow a type. -/
def Ends (rest : List Char) : Prop := ∀ c ∈ rest.head?, c = ',' ∨ c = ')'

theorem dimension?_text {size : Option Nat} {rest : List Char} (positive : ∀ n ∈ size, 1 ≤ n) :
    dimension? (dimensionText size ++ rest) = some (size, rest) := by
  cases size with
  | none => rfl
  | some n =>
    have read : number? (Nat.toDigits 10 n ++ ']' :: rest) = some (n, ']' :: rest) :=
      number?_toDigits (positive n rfl) (fun c first => by cases first; rfl)
    obtain ⟨c, ds, digits, -⟩ := toDigits_eq_cons (positive n rfl)
    have first : c ∈ Nat.toDigits 10 n := by
      rw [digits]
      exact List.mem_cons_self
    have digit := isDigit_of_mem first
    have other : c ≠ ']' := by
      rintro rfl
      cases digit
    simp only [dimensionText, List.cons_append, List.append_assoc, List.nil_append] at read ⊢
    rw [dimension?]
    · rw [read]
      rfl
    · intro more same
      rw [digits] at same
      injection same with first _
      exact other first

theorem dimensions_read {sizes : List (Option Nat)} {rest : List Char}
    (positive : ∀ size ∈ sizes, ∀ n ∈ size, 1 ≤ n) (ends : Ends rest) :
    dimensions (dimensionTexts sizes ++ rest) = (sizes, rest) := by
  induction sizes with
  | nil =>
    have nothing : dimension? rest = none := by
      cases rest with
      | nil => rfl
      | cons c more =>
        rcases ends c rfl with rfl | rfl <;> rfl
    show dimensions rest = _
    rw [dimensions]
    split
    · rename_i found
      rw [nothing] at found
      cases found
    · rfl
  | cons size sizes ih =>
    have read : dimension? (dimensionTexts (size :: sizes) ++ rest) =
        some (size, dimensionTexts sizes ++ rest) := by
      rw [dimensionTexts, List.flatMap_cons, List.append_assoc]
      exact dimension?_text (positive size List.mem_cons_self)
    have others := ih fun size among => positive size (List.mem_cons_of_mem _ among)
    rw [dimensions]
    split
    · rename_i found
      rw [read] at found
      cases found
      rw [others]
    · rename_i nothing
      rw [read] at nothing
      cases nothing

/-! ## Single values -/

/-- A word at the start of a text, read to its end. -/
theorem basic?_base {base : String} {suffix : Suffix} {behind rest tail : List Char}
    {sizes : List (Option Nat)} (letters : ∀ c ∈ base.toList, c.isAlpha = true)
    (one : base.toList ≠ []) (ends : ∀ c ∈ behind.head?, c.isAlpha = false)
    (read : Written.suffix behind = (suffix, rest)) (more : dimensions rest = (sizes, tail)) :
    basic? (base.toList ++ behind) = some (.basic base suffix sizes, tail) := by
  have front : (base.toList ++ behind).takeWhile Char.isAlpha = base.toList := by
    rw [List.takeWhile_append_of_pos letters]
    cases behind with
    | nil => simp
    | cons c behind =>
      have stop := ends c rfl
      simp [stop]
  have back : (base.toList ++ behind).dropWhile Char.isAlpha = behind := by
    rw [List.dropWhile_append_of_pos letters]
    cases behind with
    | nil => rfl
    | cons c behind =>
      have stop := ends c rfl
      simp [stop]
  rw [basic?, front, back, read]
  split
  · rename_i nothing
    exact absurd nothing one
  · simp only [more, String.ofList_toList]

end Written

/-- A single value's type with the sizes of arrays behind. -/
def Leaf.written (sizes : List (Option Nat)) : Leaf → Written
  | uint bits => .basic "uint" (.size bits) sizes
  | int bits => .basic "int" (.size bits) sizes
  | bool => .basic "bool" .none sizes
  | address => .basic "address" .none sizes
  | fixedBytes size => .basic "bytes" (.size size) sizes
  | bytes => .basic "bytes" .none sizes
  | string => .basic "string" .none sizes

mutual

def Param.written (sizes : List (Option Nat)) : Param → Written
  | .leaf l => l.written sizes
  | .array item size => item.written (size :: sizes)
  | .struct _ _ fields => .tuple (Param.writtenAll fields) sizes

def Param.writtenAll : List Param → List Written
  | [] => []
  | p :: rest => p.written [] :: Param.writtenAll rest

end

namespace Written

/-- What follows a base that has nothing behind it. -/
theorem suffix_none {rest : List Char} (digitless : Digitless rest) :
    suffix rest = (.none, rest) := by
  have nothing : number? rest = none := by
    cases rest with
    | nil => rfl
    | cons c rest =>
      have stop := digitless c rfl
      simp [number?, stop]
  rw [suffix, nothing]

/-- What follows a base that has a size behind it. -/
theorem suffix_size {n : Nat} {rest : List Char} (positive : 1 ≤ n) (digitless : Digitless rest)
    (single : ∀ c ∈ rest.head?, c ≠ 'x') :
    suffix (Nat.toDigits 10 n ++ rest) = (.size n, rest) := by
  rw [suffix, number?_toDigits positive digitless]
  split
  · rename_i found
    cases found
  · rename_i m more found
    cases found
    exact absurd rfl (single 'x' rfl)
  · rename_i found
    cases found
    rfl

theorem head?_dimensionTexts (sizes : List (Option Nat)) {rest : List Char} (ends : Ends rest) :
    ∀ c ∈ (dimensionTexts sizes ++ rest).head?, c = '[' ∨ c = ',' ∨ c = ')' := by
  intro c first
  cases sizes with
  | nil => exact .inr (ends c first)
  | cons size sizes =>
    refine .inl ?_
    cases size <;> cases first <;> rfl

end Written

/-- **A single value's type is read from its text.** -/
theorem Leaf.basic?_text {l : Leaf} {sizes : List (Option Nat)} {rest : List Char}
    (sized : l.IsSized) (large : ∀ size ∈ sizes, ∀ n ∈ size, 1 ≤ n) (ends : Written.Ends rest) :
    Written.basic? (l.text ++ (dimensionTexts sizes ++ rest)) = some (l.written sizes, rest) := by
  have more := Written.dimensions_read large ends
  have first := Written.head?_dimensionTexts sizes ends
  have digitless : Digitless (dimensionTexts sizes ++ rest) := by
    intro c here
    rcases first c here with rfl | rfl | rfl <;> rfl
  have other : ∀ c ∈ (dimensionTexts sizes ++ rest).head?, c.isAlpha = false := by
    intro c here
    rcases first c here with rfl | rfl | rfl <;> rfl
  have plain (base : String) (letters : base.toList.all Char.isAlpha = true)
      (one : base.toList ≠ []) :
      Written.basic? (base.toList ++ (dimensionTexts sizes ++ rest)) =
        some (.basic base .none sizes, rest) :=
    Written.basic?_base (List.all_eq_true.mp letters) one other (Written.suffix_none digitless) more
  have counted (base : String) (n : Nat) (letters : base.toList.all Char.isAlpha = true)
      (one : base.toList ≠ []) (positive : 1 ≤ n) :
      Written.basic? (base.toList ++ Nat.toDigits 10 n ++ (dimensionTexts sizes ++ rest)) =
        some (.basic base (.size n) sizes, rest) := by
    obtain ⟨c, ds, digits, -⟩ := toDigits_eq_cons positive
    have digit : c.isDigit = true :=
      isDigit_of_mem (n := n) (by rw [digits]; exact List.mem_cons_self)
    rw [List.append_assoc]
    refine Written.basic?_base (List.all_eq_true.mp letters) one ?_
      (Written.suffix_size positive digitless ?_) more
    · intro c' here
      rw [digits] at here
      cases here
      exact Text.isAlpha_of_isDigit digit
    · intro c' here
      rcases first c' here with rfl | rfl | rfl <;> decide
  cases l with
  | uint bits => exact counted "uint" bits (by decide) (by decide) (by have := sized.2.1; omega)
  | int bits => exact counted "int" bits (by decide) (by decide) (by have := sized.2.1; omega)
  | bool => exact plain "bool" (by decide) (by decide)
  | address => exact plain "address" (by decide) (by decide)
  | fixedBytes size => exact counted "bytes" size (by decide) (by decide) sized.1
  | bytes => exact plain "bytes" (by decide) (by decide)
  | string => exact plain "string" (by decide) (by decide)

/-! ## Parameters -/

theorem Leaf.text_eq_cons (l : Leaf) : ∃ c cs, l.text = c :: cs ∧ c ≠ '(' := by
  cases l <;> exact ⟨_, _, rfl, by decide⟩

theorem intercalate_schemas (p q : Param) (rest : List Param) :
    [','].intercalate (Param.schemas (p :: q :: rest)) =
      p.schema ++ ',' :: [','].intercalate (Param.schemas (q :: rest)) := by
  simp only [Param.schemas, List.intercalate_cons_cons, List.append_assoc, List.singleton_append]

mutual

/-- **A type is read from its text**, by induction on the parameter. A text has at least as many
characters as there are brackets in each other and types beside each other in it. -/
theorem Param.type?_schema : ∀ (p : Param) (sizes : List (Option Nat)) (rest : List Char)
    (depth : Nat), p.IsSized → (∀ size ∈ sizes, ∀ n ∈ size, 1 ≤ n) → Written.Ends rest →
    p.schema.length ≤ depth →
    Written.type? (p.schema ++ (dimensionTexts sizes ++ rest)) depth = some (p.written sizes, rest)
  | .leaf l, sizes, rest, depth, sized, large, ends, deep => by
    obtain ⟨c, cs, text, other⟩ := l.text_eq_cons
    have read := Leaf.basic?_text sized large ends
    rw [Param.schema] at deep ⊢
    rw [text] at deep read ⊢
    cases depth with
    | zero => exact absurd deep (Nat.not_succ_le_zero _)
    | succ depth =>
      rw [Written.type?]
      · exact read
      · intro more same
        injection same with same _
        exact other same
  | .array item size, sizes, rest, depth, sized, large, ends, deep => by
    have inner : item.schema.length ≤ depth := by
      rw [Param.schema, List.length_append] at deep
      omega
    have around : ∀ size' ∈ size :: sizes, ∀ n ∈ size', 1 ≤ n := by
      intro size' among n given
      rcases List.mem_cons.mp among with rfl | among
      · exact (sized.2 n given).1
      · exact large size' among n given
    have read := item.type?_schema (size :: sizes) rest depth sized.1 around ends inner
    rw [dimensionTexts, List.flatMap_cons, List.append_assoc] at read
    rw [Param.schema, List.append_assoc]
    exact read
  | .struct _ _ fields, sizes, rest, depth, sized, large, ends, deep => by
    cases depth with
    | zero =>
      rw [Param.schema] at deep
      exact absurd deep (Nat.not_succ_le_zero _)
    | succ depth =>
      have inner : ([','].intercalate (Param.schemas fields)).length + 1 ≤ depth := by
        rw [Param.schema, List.length_cons, List.length_append, List.length_singleton] at deep
        omega
      have items := Param.items?_schemas fields (dimensionTexts sizes ++ rest) depth sized.2 sized.1
        inner
      have behind := Written.dimensions_read large ends
      rw [Param.schema, List.cons_append, List.append_assoc, List.singleton_append, Written.type?,
        items]
      simp only [behind]
      rfl

/-- The types of several parameters are read up to the bracket behind them. -/
theorem Param.items?_schemas : ∀ (fields : List Param) (rest : List Char) (depth : Nat),
    Param.AreSized fields → fields ≠ [] →
    ([','].intercalate (Param.schemas fields)).length + 1 ≤ depth →
    Written.items? ([','].intercalate (Param.schemas fields) ++ ')' :: rest) depth =
      some (Param.writtenAll fields, rest)
  | [], _, _, _, one, _ => absurd rfl one
  | [p], rest, depth, sized, _, deep => by
    rw [Param.schemas, Param.schemas, List.intercalate_singleton] at deep ⊢
    cases depth with
    | zero => exact absurd deep (Nat.not_succ_le_zero _)
    | succ depth =>
      have ends : Written.Ends (')' :: rest) := fun c first => .inr (Option.some.inj first).symm
      have read := p.type?_schema [] _ depth sized.1
        (fun _ among => nomatch among) ends (Nat.le_of_succ_le_succ deep)
      rw [dimensionTexts, List.flatMap_nil, List.nil_append] at read
      rw [Written.items?, read]
      rfl
  | p :: q :: fields, rest, depth, sized, _, deep => by
    rw [intercalate_schemas, List.length_append, List.length_cons] at deep
    cases depth with
    | zero => exact absurd deep (Nat.not_succ_le_zero _)
    | succ depth =>
      have ends : Written.Ends (',' :: ([','].intercalate (Param.schemas (q :: fields)) ++
          ')' :: rest)) := fun c first => .inl (Option.some.inj first).symm
      have read := p.type?_schema [] _ depth sized.1
        (fun _ among => nomatch among) ends (by omega)
      have others := Param.items?_schemas (q :: fields) rest depth sized.2
        (List.cons_ne_nil _ _) (by omega)
      rw [dimensionTexts, List.flatMap_nil, List.nil_append] at read
      rw [intercalate_schemas, List.append_assoc, List.cons_append, Written.items?, read]
      simp only [others, Option.map_some]
      rfl

end

/-! ## The type that is meant -/

theorem Leaf.expanded_written (l : Leaf) (sizes : List (Option Nat)) :
    (l.written sizes).expanded = l.written sizes := by
  cases l <;> rfl

theorem Leaf.isFitting_written {l : Leaf} {sizes : List (Option Nat)} (sized : l.IsSized) :
    (l.written sizes).isFitting = true := by
  cases l with
  | uint bits | int bits =>
    obtain ⟨whole, least, most⟩ := sized
    simp [Leaf.written, Written.isFitting, Written.fits, Written.isNumberSize, whole, least, most]
  | fixedBytes size =>
    simp [Leaf.written, Written.isFitting, Written.fits, sized.2]
  | _ => rfl

theorem Leaf.toType_written (l : Leaf) (sizes : List (Option Nat)) :
    (l.written sizes).toType = .ok (Written.arrays l.type sizes) := by
  cases l <;> rfl

mutual

theorem Param.expanded_written : ∀ (p : Param) (sizes : List (Option Nat)),
    (p.written sizes).expanded = p.written sizes
  | .leaf l, sizes => l.expanded_written sizes
  | .array item size, sizes => item.expanded_written (size :: sizes)
  | .struct _ _ fields, sizes => by
    rw [Param.written, Written.expanded, Param.expandedAll_written fields]

theorem Param.expandedAll_written : ∀ fields : List Param,
    Written.expandedAll (Param.writtenAll fields) = Param.writtenAll fields
  | [] => rfl
  | p :: rest => by
    rw [Param.writtenAll, Written.expandedAll, p.expanded_written, Param.expandedAll_written rest]

end

mutual

theorem Param.isFitting_written : ∀ (p : Param) {sizes : List (Option Nat)}, p.IsSized →
    (p.written sizes).isFitting = true
  | .leaf _, _, sized => Leaf.isFitting_written sized
  | .array item _, _, sized => item.isFitting_written sized.1
  | .struct _ _ fields, _, sized => Param.areFitting_written fields sized.2

theorem Param.areFitting_written : ∀ (fields : List Param), Param.AreSized fields →
    Written.areFitting (Param.writtenAll fields) = true
  | [], _ => rfl
  | p :: rest, sized => by
    rw [Param.writtenAll, Written.areFitting, p.isFitting_written sized.1,
      Param.areFitting_written rest sized.2]
    rfl

end

mutual

theorem Param.toType_written : ∀ (p : Param) (sizes : List (Option Nat)),
    (p.written sizes).toType = .ok (Written.arrays p.type sizes)
  | .leaf l, sizes => l.toType_written sizes
  | .array item size, sizes => item.toType_written (size :: sizes)
  | .struct _ _ fields, sizes => by
    rw [Param.written, Written.toType, Param.toTypes_written fields]
    rfl

theorem Param.toTypes_written : ∀ fields : List Param,
    Written.toTypes (Param.writtenAll fields) = .ok (Param.types fields)
  | [] => rfl
  | p :: rest => by
    rw [Param.writtenAll, Written.toTypes, p.toType_written [], Param.toTypes_written rest]
    rfl

end

theorem Param.known_written : ∀ (p : Param) {sizes dimensions : List (Option Nat)} {base : String}
    {suffix : Suffix}, p.written sizes = .basic base suffix dimensions →
    Written.knownBases.contains base = true
  | .leaf l, _, _, _, _, same => by
    cases l <;> cases same <;> decide
  | .array item _, _, _, _, _, same => item.known_written same
  | .struct _ _ _, _, _, _, _, same => nomatch same

theorem Written.resolve_of_known {w : Written} {type : AbiType}
    (known : ∀ base suffix, w = .basic base suffix [] → knownBases.contains base = true)
    (fitting : w.expanded.isFitting = true) (meant : w.expanded.toType = .ok type) :
    w.resolve = .ok type := by
  rw [resolve.eq_def]
  split
  · rename_i base suffix
    have listed := known base suffix rfl
    simp only [listed, fitting, Bool.not_true, Bool.false_eq_true, if_false, meant]
  · simp only [fitting, Bool.not_true, Bool.false_eq_true, if_false, meant]

/-! ## Numbers that are too long -/

/-- A character that is no digit parts the numbers of a text. -/
theorem hasOverlong_append (front back : List Char) {c : Char} (digitless : c.isDigit = false) :
    hasOverlong (front ++ c :: back) = (hasOverlong front || hasOverlong back) := by
  have parts := List.splitOnP_append_cons (p := fun c => !c.isDigit) front back
    (show (!c.isDigit) = true by rw [digitless]; rfl)
  rw [hasOverlong, parts, List.any_append]
  rfl

theorem hasOverlong_cons {back : List Char} {c : Char} (digitless : c.isDigit = false) :
    hasOverlong (c :: back) = hasOverlong back := by
  have parts := hasOverlong_append [] back digitless
  rwa [List.nil_append] at parts

theorem length_toDigits_le_iff {n k : Nat} (positive : 0 < k) :
    (Nat.toDigits 10 n).length ≤ k ↔ n < Nat.pow 10 k :=
  Nat.length_toDigits_le_iff (by decide) positive

theorem few_digits {n k : Nat} (three : 3 ≤ k) (small : n ≤ 256) : n < Nat.pow 10 k := by
  have large : Nat.pow 10 3 ≤ Nat.pow 10 k := Nat.pow_le_pow_right (by decide) three
  have thousand : Nat.pow 10 3 = 1000 := rfl
  omega

theorem hasOverlong_digits (n : Nat) :
    hasOverlong (Nat.toDigits 10 n) = Text.isOverlong (Nat.toDigits 10 n) := by
  have whole : (Nat.toDigits 10 n).splitOnP (fun c => !c.isDigit) = [Nat.toDigits 10 n] := by
    apply List.splitOnP_eq_singleton
    intro c among
    rw [isDigit_of_mem among]
    rfl
  rw [hasOverlong, whole, List.any_cons, List.any_nil, Bool.or_false]

theorem hasOverlong_toDigits {n : Nat} (small : n < Nat.pow 10 Text.mostDigits) :
    hasOverlong (Nat.toDigits 10 n) = false := by
  have short := (length_toDigits_le_iff (by decide)).mpr small
  have few : ¬ Text.mostDigits < (Nat.toDigits 10 n).length := by omega
  rw [hasOverlong_digits]
  exact decide_eq_false few

theorem Leaf.hasOverlong_text {l : Leaf} (sized : l.IsSized) : hasOverlong l.text = false := by
  have behind (n : Nat) (small : n ≤ 256) (base : List Char)
      (letters : base.all (fun c => !c.isDigit) = true) :
      hasOverlong (base ++ Nat.toDigits 10 n) = false := by
    induction base with
    | nil => exact hasOverlong_toDigits (few_digits (by decide) small)
    | cons c base ih =>
      rw [List.all_cons, Bool.and_eq_true, Bool.not_eq_true'] at letters
      rw [List.cons_append, hasOverlong_cons letters.1]
      exact ih letters.2
  cases l with
  | uint bits => exact behind bits sized.2.2 _ (by decide)
  | int bits => exact behind bits sized.2.2 _ (by decide)
  | fixedBytes size => exact behind size (by have := sized.2; omega) _ (by decide)
  | _ => decide

mutual

theorem Param.hasOverlong_schema : ∀ (p : Param), p.IsSized → hasOverlong p.schema = false
  | .leaf _, sized => Leaf.hasOverlong_text sized
  | .array item none, sized => by
    rw [Param.schema, dimensionText, hasOverlong_append _ _ (by decide),
      item.hasOverlong_schema sized.1]
    decide
  | .array item (some n), sized => by
    rw [Param.schema, dimensionText, hasOverlong_append _ _ (by decide),
      item.hasOverlong_schema sized.1, hasOverlong_append _ _ (by decide),
      hasOverlong_toDigits (sized.2 n rfl).2]
    decide
  | .struct _ _ fields, sized => by
    rw [Param.schema, hasOverlong_cons (by decide), hasOverlong_append _ _ (by decide),
      Param.hasOverlong_schemas fields sized.2]
    decide

theorem Param.hasOverlong_schemas : ∀ (fields : List Param), Param.AreSized fields →
    hasOverlong ([','].intercalate (Param.schemas fields)) = false
  | [], _ => by decide
  | [p], sized => by
    rw [Param.schemas, Param.schemas, List.intercalate_singleton, p.hasOverlong_schema sized.1]
  | p :: q :: fields, sized => by
    rw [intercalate_schemas, hasOverlong_append _ _ (by decide), p.hasOverlong_schema sized.1,
      Param.hasOverlong_schemas (q :: fields) sized.2]
    rfl

end

/-- **The text of a parameter's type means the type that the parameter is encoded by.** -/
theorem ofText_schema {p : Param} (sized : p.IsSized) :
    AbiType.ofText (String.ofList p.schema) = .ok p.type := by
  have read := p.type?_schema [] [] (2 * p.schema.length + 2) sized
    (fun _ among => nomatch among) (fun _ first => nomatch first) (by omega)
  rw [dimensionTexts, List.flatMap_nil, List.nil_append, List.append_nil] at read
  have written : Written.ofText? (String.ofList p.schema) = some (p.written []) := by
    simp only [Written.ofText?, String.toList_ofList, read]
  have resolved : (p.written []).resolve = .ok p.type :=
    Written.resolve_of_known (fun base suffix same => p.known_written same)
      (by rw [p.expanded_written]; exact p.isFitting_written sized)
      (by rw [p.expanded_written]; exact p.toType_written [])
  rw [AbiType.ofText, written]
  simp only [String.toList_ofList, p.hasOverlong_schema sized, Bool.false_eq_true, if_false,
    resolved]

end SolidityRepl.Abi
