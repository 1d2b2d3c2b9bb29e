import Mathlib.Data.List.Basic
import SolidityRepl.Proofs.Json.RoundTrip

/-!
# Values that are written alike

The compact form tells values apart, all but floats that are written with the same characters, and
it ends where the value ends: what stands behind a value is a comma or a bracket that closes.

* `Alike`: values that differ in no more than that;
* `kindOf_renderChars`: what kind of value is written;
* `alike_of_renderChars`: values that are written alike are alike.
-/

namespace SolidityRepl.Json

/-! ## Words -/

/-- A character that stands behind a value. -/
def isClosing (c : Char) : Bool := c == ',' || c == ']' || c == '}'

/-- A character that opens a text, a list or an object. -/
def isOpening (c : Char) : Bool := c == '"' || c == '[' || c == '{'

/-- The end, or what stands behind a value. -/
def Closed (rest : List Char) : Prop := ∀ c ∈ rest.head?, isClosing c = true

/-- What is written up to the next character that closes. -/
def wordOf (cs : List Char) : List Char := cs.takeWhile fun c => !isClosing c

theorem wordOf_append {word rest : List Char} (whole : ∀ c ∈ word, isClosing c = false)
    (closed : Closed rest) : wordOf (word ++ rest) = word := by
  have all : ∀ c ∈ word, (!isClosing c) = true := fun c among => by rw [whole c among]; rfl
  rw [wordOf, List.takeWhile_append_of_pos all]
  cases rest with
  | nil => exact List.append_nil word
  | cons c rest =>
    have closes := closed c rfl
    simp [closes]

theorem isDigit_toString {n : Nat} {c : Char} (among : c ∈ (toString n).toList) :
    c.isDigit = true := by
  have digits : (toString n).toList = Nat.toDigits 10 n := Nat.toList_repr
  exact Nat.isDigit_of_mem_toDigits (by decide) (by decide) (digits ▸ among)

/-- A digit, or the sign of a whole number. -/
def isIntegral (c : Char) : Bool := c.isDigit || c == '-'

/-- A character of a float that is a number. -/
def isNumeral (c : Char) : Bool := isIntegral c || c == '.' || c == 'e' || c == '+'

/-- A number below zero has its sign in front. -/
theorem toString_negSucc (m : Nat) :
    (toString (Int.negSucc m)).toList = '-' :: (toString (m + 1)).toList := by
  show ("-" ++ toString (m + 1)).toList = _
  rw [String.toList_append]
  rfl

theorem toString_ne_nil (n : Nat) : (toString n).toList ≠ [] := by
  have digits : (toString n).toList = Nat.toDigits 10 n := Nat.toList_repr
  rw [digits]
  exact Nat.toDigits_ne_nil

theorem isIntegral_toString {n : Int} {c : Char} (among : c ∈ (toString n).toList) :
    isIntegral c = true := by
  have digits : ∀ m : Nat, ∀ c ∈ (toString m).toList, isIntegral c = true := fun m c digit => by
    rw [isIntegral, isDigit_toString digit, Bool.true_or]
  cases n with
  | ofNat m => exact digits m c among
  | negSucc m =>
    rw [toString_negSucc] at among
    obtain rfl | among := List.mem_cons.mp among
    · rfl
    · exact digits (m + 1) c among

theorem nat_of_toString {m n : Nat} (same : (toString m).toList = (toString n).toList) :
    m = n := by
  have digits : ∀ n : Nat, (toString n).toList = Nat.toDigits 10 n := fun n => Nat.toList_repr
  rw [digits, digits] at same
  rw [← Nat.ofDigitChars_ten_toDigits (n := m), same, Nat.ofDigitChars_ten_toDigits]

/-- Whole numbers that are written alike are the same. -/
theorem int_of_toString {m n : Int} (same : (toString m).toList = (toString n).toList) :
    m = n := by
  have unsigned : ∀ a b : Nat, (toString a).toList ≠ '-' :: (toString b).toList := fun a b same =>
    absurd (isDigit_toString (same ▸ List.mem_cons_self : '-' ∈ (toString a).toList)) (by decide)
  cases m with
  | ofNat a =>
    cases n with
    | ofNat b => exact congrArg Int.ofNat (nat_of_toString same)
    | negSucc b => exact absurd (same.trans (toString_negSucc b)) (unsigned a (b + 1))
  | negSucc a =>
    cases n with
    | ofNat b => exact absurd (same.symm.trans (toString_negSucc a)) (unsigned b (a + 1))
    | negSucc b =>
      rw [toString_negSucc, toString_negSucc] at same
      have numbers := nat_of_toString (List.cons.inj same).2
      rw [Nat.add_right_cancel numbers]

theorem isNumeral_of_isDigit {c : Char} (digit : c.isDigit = true) : isNumeral c = true := by
  rw [isNumeral, isIntegral, digit]
  rfl

/-- How a float is written that is a number: with a point or an exponent. -/
structure IsNumeral (cs : List Char) : Prop where
  all : ∀ c ∈ cs, isNumeral c = true
  broken : '.' ∈ cs ∨ 'e' ∈ cs

theorem IsNumeral.around {front back : List Char} {c : Char} (broken : c = '.' ∨ c = 'e')
    (before : ∀ d ∈ front, isNumeral d = true) (after : ∀ d ∈ back, isNumeral d = true) :
    IsNumeral (front ++ c :: back) where
  all d among := by
    obtain among | rfl | among := (List.mem_append.mp among).imp_right List.mem_cons.mp
    · exact before d among
    · obtain rfl | rfl := broken <;> rfl
    · exact after d among
  broken := by
    obtain rfl | rfl := broken
    · exact .inl (List.mem_append_right front List.mem_cons_self)
    · exact .inr (List.mem_append_right front List.mem_cons_self)

/-- A sign is a part of a number. -/
theorem IsNumeral.signed {cs : List Char} (numeral : IsNumeral cs) (negative : Bool) :
    IsNumeral ((if negative = true then ['-'] else []) ++ cs) where
  all c among := by
    obtain sign | among := List.mem_append.mp among
    · cases negative with
      | true =>
        rw [List.mem_singleton.mp sign]
        rfl
      | false => cases sign
    · exact numeral.all c among
  broken := numeral.broken.imp (List.mem_append_right _) (List.mem_append_right _)

theorem isNumeral_exponentText (e : Int) : ∀ c ∈ Decimal.exponentText e, isNumeral c = true := by
  have digits : ∀ c ∈ (toString e.natAbs).toList, isNumeral c = true := fun c among =>
    isNumeral_of_isDigit (isDigit_toString among)
  intro c among
  rw [Decimal.exponentText] at among
  obtain rfl | among := List.mem_cons.mp among
  · split <;> rfl
  · split at among
    · obtain rfl | among := List.mem_cons.mp among
      · rfl
      · exact digits c among
    · exact digits c among

theorem isNumeral_layout {digits : List Char} (some : digits ≠ [])
    (all : ∀ c ∈ digits, c.isDigit = true) (e : Int) : IsNumeral (Decimal.layout digits e) := by
  have fine : ∀ c ∈ digits, isNumeral c = true := fun c among => isNumeral_of_isDigit (all c among)
  have zeros : ∀ n, ∀ c ∈ List.replicate n '0', isNumeral c = true := fun n c among => by
    rw [List.eq_of_mem_replicate among]
    rfl
  -- the cases are those of the layout
  rw [Decimal.layout.eq_def]
  dsimp only
  split
  · split
    · exact absurd rfl some
    · exact @IsNumeral.around [_] _ _ (.inr rfl) fine (isNumeral_exponentText _)
    · obtain ⟨first, others⟩ := List.forall_mem_cons.mp fine
      refine @IsNumeral.around [_] _ _ (.inl rfl) (List.forall_mem_singleton.mpr first) ?_
      exact (IsNumeral.around (.inr rfl) others (isNumeral_exponentText _)).all
  · split
    · refine @IsNumeral.around ['0'] _ _ (.inl rfl) (List.forall_mem_singleton.mpr rfl) ?_
      exact List.forall_mem_append.mpr ⟨zeros _, fine⟩
    · split
      · exact .around (.inl rfl) (List.forall_mem_append.mpr ⟨fine, zeros _⟩)
          (List.forall_mem_singleton.mpr rfl)
      · exact .around (.inl rfl) (fun c among => fine c (List.mem_of_mem_take among))
          fun c among => fine c (List.mem_of_mem_drop among)

/-- How floats are written. -/
theorem renderReal_cases (x : Float) :
    renderReal x ∈ ["NaN".toList, "Infinity".toList, "-Infinity".toList] ∨
      IsNumeral (renderReal x) := by
  rw [renderReal]
  split
  · exact .inl List.mem_cons_self
  · split
    · left
      split
      · exact List.mem_cons_of_mem _ (List.mem_cons_of_mem _ List.mem_cons_self)
      · exact List.mem_cons_of_mem _ List.mem_cons_self
    · rename_i number finite
      right
      rw [Decimal.text, if_neg number, if_neg finite]
      split
      · refine .signed (@IsNumeral.around ['0'] ['0'] _ (.inl rfl) ?_ ?_) _ <;>
          exact List.forall_mem_singleton.mpr rfl
      · refine .signed (isNumeral_layout ?_ (fun c among => ?_) _) _
        · exact toString_ne_nil _
        · exact isDigit_toString among

/-! ## Kinds of values -/

/-- What a value is; for the values of one word, which one. -/
inductive Kind where
  | text
  | list
  | object
  | null
  | truth (b : Bool)
  | whole
  | real
  deriving DecidableEq

def kind : Json → Kind
  | .null => .null
  | .bool b => .truth b
  | .int _ => .whole
  | .real _ => .real
  | .str _ => .text
  | .arr _ => .list
  | .obj _ => .object

def kindOfWord (word : List Char) : Kind :=
  if word = "null".toList then .null
  else if word = "true".toList then .truth true
  else if word = "false".toList then .truth false
  else if word.all isIntegral then .whole
  else .real

/-- The kind of the value that is written first. -/
def kindOf : List Char → Kind
  | '"' :: _ => .text
  | '[' :: _ => .list
  | '{' :: _ => .object
  | cs => kindOfWord (wordOf cs)

/-- A value of one word. -/
structure IsWord (v : Json) : Prop where
  some : renderChars v ≠ []
  whole : ∀ c ∈ renderChars v, isClosing c = false ∧ isOpening c = false
  read : kindOfWord (renderChars v) = v.kind

theorem plain_of_isNumeral {c : Char} (numeral : isNumeral c = true) :
    isClosing c = false ∧ isOpening c = false := by
  refine ⟨?_, ?_⟩
  · rw [Bool.eq_false_iff]
    intro closes
    simp only [isClosing, Bool.or_eq_true, beq_iff_eq] at closes
    obtain (rfl | rfl) | rfl := closes <;> revert numeral <;> decide
  · rw [Bool.eq_false_iff]
    intro opens
    simp only [isOpening, Bool.or_eq_true, beq_iff_eq] at opens
    obtain (rfl | rfl) | rfl := opens <;> revert numeral <;> decide

def isBare (cs : List Char) : Bool := cs.all fun c => !isClosing c && !isOpening c

theorem whole_of_isBare {cs : List Char} (bare : isBare cs = true) :
    ∀ c ∈ cs, isClosing c = false ∧ isOpening c = false := fun c among => by
  simpa using List.all_eq_true.mp bare c among

theorem isWord_null : IsWord .null := ⟨by decide, whole_of_isBare (by decide), by decide⟩

theorem isWord_bool (b : Bool) : IsWord (.bool b) := by
  cases b <;> exact ⟨by decide, whole_of_isBare (by decide), by decide⟩

theorem isWord_int (n : Int) : IsWord (.int n) := by
  have spelled : renderChars (.int n) = (toString n).toList := by rw [renderChars]
  have all : (toString n).toList.all isIntegral = true :=
    List.all_eq_true.mpr fun c among => isIntegral_toString among
  refine ⟨?_, fun c among => ?_, ?_⟩
  · rw [spelled]
    cases n with
    | ofNat m => exact toString_ne_nil m
    | negSucc m =>
      rw [toString_negSucc]
      exact List.cons_ne_nil _ _
  · rw [spelled] at among
    refine plain_of_isNumeral ?_
    rw [isNumeral, isIntegral_toString among]
    rfl
  · have differs : ∀ word : List Char, word.all isIntegral = false → (toString n).toList ≠ word :=
      fun word other same => Bool.false_ne_true ((other.symm.trans (same ▸ all)))
    rw [spelled, kindOfWord, if_neg (differs _ rfl), if_neg (differs _ rfl),
      if_neg (differs _ rfl), if_pos all]
    rfl

theorem isWord_real (x : Float) : IsWord (.real x) := by
  have spelled : renderChars (.real x) = renderReal x := by rw [renderChars]
  obtain named | numeral := renderReal_cases x
  · have names : ∀ word ∈ ["NaN".toList, "Infinity".toList, "-Infinity".toList], word ≠ [] ∧
        isBare word = true ∧ kindOfWord word = .real := by
      decide
    obtain ⟨some, bare, read⟩ := names _ named
    exact ⟨spelled ▸ some, whole_of_isBare (spelled ▸ bare), spelled ▸ read⟩
  · refine ⟨?_, fun c among => ?_, ?_⟩
    · rw [spelled]
      obtain among | among := numeral.broken <;> exact List.ne_nil_of_mem among
    · rw [spelled] at among
      exact plain_of_isNumeral (numeral.all c among)
    · have differs : ∀ word : List Char, word.all isNumeral = false → renderReal x ≠ word :=
        fun word other same => Bool.false_ne_true
          (other.symm.trans (same ▸ List.all_eq_true.mpr numeral.all))
      have fraction : ¬ (renderReal x).all isIntegral = true := fun all => by
        have every := List.all_eq_true.mp all
        obtain among | among := numeral.broken <;> exact absurd (every _ among) (by decide)
      rw [spelled, kindOfWord, if_neg (differs _ rfl), if_neg (differs _ rfl),
        if_neg (differs _ rfl), if_neg fraction]
      rfl

theorem kindOf_cons {c : Char} (plain : isOpening c = false) (rest : List Char) :
    kindOf (c :: rest) = kindOfWord (wordOf (c :: rest)) := by
  rw [kindOf.eq_def]
  split <;> first
    | rfl
    | (rename_i same
       obtain ⟨rfl, -⟩ := List.cons.inj same
       exact absurd plain (by decide))

theorem IsWord.kindOf_append {v : Json} (word : IsWord v) {rest : List Char}
    (closed : Closed rest) : kindOf (renderChars v ++ rest) = v.kind := by
  obtain ⟨c, more, spelled⟩ := List.exists_cons_of_ne_nil word.some
  have plain := (word.whole c (spelled ▸ List.mem_cons_self)).2
  have first : kindOf (renderChars v ++ rest) = kindOfWord (wordOf (renderChars v ++ rest)) := by
    rw [spelled, List.cons_append, kindOf_cons plain]
  rw [first, wordOf_append (fun c among => (word.whole c among).1) closed, word.read]

/-- **The kind of a value is seen from how it is written**, whatever stands behind it. -/
theorem kindOf_renderChars (v : Json) {rest : List Char} (closed : Closed rest) :
    kindOf (renderChars v ++ rest) = v.kind := by
  cases v with
  | null => exact isWord_null.kindOf_append closed
  | bool b => exact (isWord_bool b).kindOf_append closed
  | int n => exact (isWord_int n).kindOf_append closed
  | real x => exact (isWord_real x).kindOf_append closed
  | str s => rw [renderChars, renderText]; rfl
  | arr items => rw [renderChars]; rfl
  | obj fields => rw [renderChars]; rfl

/-- No value begins with what stands behind one. -/
theorem renderChars_begins (v : Json) :
    ∃ c more, renderChars v = c :: more ∧ isClosing c = false := by
  have word : ∀ v, IsWord v → ∃ c more, renderChars v = c :: more ∧ isClosing c = false := by
    intro v word
    obtain ⟨c, more, spelled⟩ := List.exists_cons_of_ne_nil word.some
    exact ⟨c, more, spelled, (word.whole c (spelled ▸ List.mem_cons_self)).1⟩
  cases v with
  | null => exact word _ isWord_null
  | bool b => exact word _ (isWord_bool b)
  | int n => exact word _ (isWord_int n)
  | real x => exact word _ (isWord_real x)
  | str s => exact ⟨'"', _, by rw [renderChars, renderText]; rfl, rfl⟩
  | arr items => exact ⟨'[', _, by rw [renderChars]; rfl, rfl⟩
  | obj fields => exact ⟨'{', _, by rw [renderChars]; rfl, rfl⟩

/-! ## Values that are alike -/

mutual

/-- The same values, but for floats that are written alike. -/
def Alike : Json → Json → Prop
  | .null, .null => True
  | .bool a, .bool b => a = b
  | .int m, .int n => m = n
  | .real x, .real y => renderReal x = renderReal y
  | .str s, .str t => s = t
  | .arr items, .arr others => AllAlike items others
  | .obj fields, .obj others => FieldsAlike fields others
  | _, _ => False

def AllAlike : List Json → List Json → Prop
  | [], [] => True
  | v :: items, w :: others => Alike v w ∧ AllAlike items others
  | _, _ => False

def FieldsAlike : List (String × Json) → List (String × Json) → Prop
  | [], [] => True
  | (k, v) :: fields, (l, w) :: others => k = l ∧ Alike v w ∧ FieldsAlike fields others
  | _, _ => False

end

/-- A text between quotes ends where it is closed. -/
theorem renderText_append {s t : String} {r r' : List Char}
    (same : renderText s ++ r = renderText t ++ r') : s = t ∧ r = r' := by
  have shape : ∀ (s : String) (r : List Char),
      renderText s ++ r = '"' :: (s.toList.flatMap escape ++ '"' :: r) := fun s r => by
    simp [renderText]
  rw [shape, shape] at same
  have read := congrArg textFrom (List.cons.inj same).2
  rw [textFrom_renderText, textFrom_renderText] at read
  exact Prod.mk.inj (Except.ok.inj read)

/-- Words that are written alike end alike. -/
theorem IsWord.append {v w : Json} (word : IsWord v) (word' : IsWord w) {r r' : List Char}
    (closed : Closed r) (closed' : Closed r') (same : renderChars v ++ r = renderChars w ++ r') :
    renderChars v = renderChars w ∧ r = r' := by
  have words := congrArg wordOf same
  rw [wordOf_append (fun c among => (word.whole c among).1) closed,
    wordOf_append (fun c among => (word'.whole c among).1) closed'] at words
  rw [words] at same
  exact ⟨words, List.append_cancel_left same⟩

theorem closed_cons {c : Char} (closes : isClosing c = true) (rest : List Char) :
    Closed (c :: rest) := fun d first => by
  cases first
  exact closes

def itemsBehind : List Json → List Char
  | [] => []
  | items => ',' :: renderItems items

theorem renderItems_cons (v : Json) (items : List Json) :
    renderItems (v :: items) = renderChars v ++ itemsBehind items := by
  cases items with
  | nil => rw [renderItems, itemsBehind, List.append_nil]
  | cons w items =>
    rw [renderItems]
    rfl

def fieldsBehind : List (String × Json) → List Char
  | [] => []
  | fields => ',' :: renderFields fields

theorem renderFields_cons (k : String) (v : Json) (fields : List (String × Json)) :
    renderFields ((k, v) :: fields) =
      renderText k ++ ':' :: (renderChars v ++ fieldsBehind fields) := by
  cases fields with
  | nil => rw [renderFields, fieldsBehind, List.append_nil]
  | cons f fields =>
    rw [renderFields]
    simp [fieldsBehind]

theorem closed_itemsBehind (items : List Json) (r : List Char) :
    Closed (itemsBehind items ++ ']' :: r) := by
  cases items with
  | nil => exact closed_cons rfl r
  | cons v items => exact closed_cons rfl _

theorem closed_fieldsBehind (fields : List (String × Json)) (r : List Char) :
    Closed (fieldsBehind fields ++ '}' :: r) := by
  cases fields with
  | nil => exact closed_cons rfl r
  | cons f fields => exact closed_cons rfl _

/-- A list with items is not closed at once. -/
theorem renderItems_ne_close (v : Json) (items : List Json) {r r' : List Char} :
    renderItems (v :: items) ++ r ≠ ']' :: r' := fun same => by
  obtain ⟨c, more, spelled, plain⟩ := renderChars_begins v
  rw [renderItems_cons, spelled] at same
  obtain ⟨rfl, -⟩ := List.cons.inj same
  exact absurd plain (by decide)

theorem renderFields_ne_close (k : String) (v : Json) (fields : List (String × Json))
    {r r' : List Char} : renderFields ((k, v) :: fields) ++ r ≠ '}' :: r' := fun same => by
  rw [renderFields_cons, renderText] at same
  exact absurd (List.cons.inj same).1 (by decide)

mutual

/-- **Values that are written alike are alike**, and what stands behind them is the same. -/
theorem alike_of_renderChars (v w : Json) {r r' : List Char} (closed : Closed r)
    (closed' : Closed r') (same : renderChars v ++ r = renderChars w ++ r') :
    Alike v w ∧ r = r' := by
  have kinds : v.kind = w.kind := by
    rw [← kindOf_renderChars v closed, ← kindOf_renderChars w closed', same]
  cases v with
  | null =>
    cases w with
    | null => exact ⟨by rw [Alike]; trivial, List.append_cancel_left same⟩
    | _ => cases kinds
  | bool b =>
    cases w with
    | bool b' =>
      cases kinds
      exact ⟨by rw [Alike], List.append_cancel_left same⟩
    | _ => cases kinds
  | int n =>
    cases w with
    | int n' =>
      obtain ⟨shown, rest⟩ := (isWord_int n).append (isWord_int n') closed closed' same
      rw [renderChars, renderChars] at shown
      rw [Alike]
      exact ⟨int_of_toString shown, rest⟩
    | _ => cases kinds
  | real x =>
    cases w with
    | real x' =>
      obtain ⟨shown, rest⟩ := (isWord_real x).append (isWord_real x') closed closed' same
      rw [renderChars, renderChars] at shown
      rw [Alike]
      exact ⟨shown, rest⟩
    | _ => cases kinds
  | str s =>
    cases w with
    | str s' =>
      rw [renderChars, renderChars] at same
      rw [Alike]
      exact renderText_append same
    | _ => cases kinds
  | arr items =>
    cases w with
    | arr others =>
      rw [renderChars, renderChars] at same
      rw [Alike]
      exact allAlike_of_renderItems items others (by simpa using same)
    | _ => cases kinds
  | obj fields =>
    cases w with
    | obj others =>
      rw [renderChars, renderChars] at same
      rw [Alike]
      exact fieldsAlike_of_renderFields fields others (by simpa using same)
    | _ => cases kinds

theorem allAlike_of_renderItems (items others : List Json) {r r' : List Char}
    (same : renderItems items ++ ']' :: r = renderItems others ++ ']' :: r') :
    AllAlike items others ∧ r = r' := by
  match items, others with
  | [], [] => exact ⟨by rw [AllAlike]; trivial, (List.cons.inj same).2⟩
  | [], w :: others => exact absurd same.symm (renderItems_ne_close w others)
  | v :: items, [] => exact absurd same (renderItems_ne_close v items)
  | v :: items, w :: others =>
    rw [renderItems_cons, renderItems_cons, List.append_assoc, List.append_assoc] at same
    obtain ⟨first, behind⟩ := alike_of_renderChars v w (closed_itemsBehind items r)
      (closed_itemsBehind others r') same
    rw [AllAlike]
    match items, others with
    | [], [] => exact ⟨⟨first, by rw [AllAlike]; trivial⟩, (List.cons.inj behind).2⟩
    | [], _ :: _ => exact absurd (List.cons.inj behind).1 (by decide)
    | _ :: _, [] => exact absurd (List.cons.inj behind).1 (by decide)
    | x :: items, y :: others =>
      obtain ⟨more, rest⟩ :=
        allAlike_of_renderItems (x :: items) (y :: others) (List.cons.inj behind).2
      exact ⟨⟨first, more⟩, rest⟩

theorem fieldsAlike_of_renderFields (fields others : List (String × Json)) {r r' : List Char}
    (same : renderFields fields ++ '}' :: r = renderFields others ++ '}' :: r') :
    FieldsAlike fields others ∧ r = r' := by
  match fields, others with
  | [], [] => exact ⟨by rw [FieldsAlike]; trivial, (List.cons.inj same).2⟩
  | [], (l, w) :: others => exact absurd same.symm (renderFields_ne_close l w others)
  | (k, v) :: fields, [] => exact absurd same (renderFields_ne_close k v fields)
  | (k, v) :: fields, (l, w) :: others =>
    rw [renderFields_cons, renderFields_cons, List.append_assoc, List.append_assoc] at same
    obtain ⟨names, values⟩ := renderText_append same
    rw [List.cons_append, List.cons_append, List.append_assoc, List.append_assoc] at values
    obtain ⟨first, behind⟩ := alike_of_renderChars v w (closed_fieldsBehind fields r)
      (closed_fieldsBehind others r') (List.cons.inj values).2
    rw [FieldsAlike]
    match fields, others with
    | [], [] => exact ⟨⟨names, first, by rw [FieldsAlike]; trivial⟩, (List.cons.inj behind).2⟩
    | [], _ :: _ => exact absurd (List.cons.inj behind).1 (by decide)
    | _ :: _, [] => exact absurd (List.cons.inj behind).1 (by decide)
    | f :: fields, g :: others =>
      obtain ⟨more, rest⟩ :=
        fieldsAlike_of_renderFields (f :: fields) (g :: others) (List.cons.inj behind).2
      exact ⟨⟨names, first, more⟩, rest⟩

end

theorem alike_of_render {v w : Json} (same : render v = render w) : Alike v w := by
  have ends : Closed [] := fun c first => nomatch first
  have chars : renderChars v ++ [] = renderChars w ++ [] := by
    rw [String.ofList_injective same]
  exact (alike_of_renderChars v w ends ends chars).1

end SolidityRepl.Json
