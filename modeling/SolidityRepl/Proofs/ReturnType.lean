import SolidityRepl.ReturnType
import SolidityRepl.Proofs.Text.Search
import SolidityRepl.Proofs.Text.Split

/-!
# Types that messages say

A message says a type where it stands between the compiler's words, and what is declared for it
depends on how the type begins and ends.
-/

namespace SolidityRepl.ReturnType

open Text

/-! ## What a message says -/

/-- Somewhere in a message a type stands between the compiler's words, all on one line. What is
before these words is `front`. -/
def Sentence (message front type : List Char) : Prop :=
  '\n' ∉ type ∧ front ++ (beforeType ++ (type ++ afterType)) <+: message

/-- The type that counts: the first one, up to the last place where it can end. -/
def Says (message type : List Char) : Prop :=
  ∃ front, Sentence message front type ∧ ∀ front' type', Sentence message front' type' →
    front.length ≤ front'.length ∧ (front'.length = front.length → type'.length ≤ type.length)

/-- What is found out at one place of a message. -/
def typeAt? (rest : List Char) : Option (List Char) :=
  (beforeType.isPrefixOf? rest).bind fun rest =>
    beforeLast? afterType (rest.takeWhile (· != '\n'))

theorem ofMessage?_eq (message : List Char) :
    ofMessage? message = firstMatch (fun _ rest => typeAt? rest) none message := rfl

theorem newline_not_mem_afterType : '\n' ∉ afterType := by decide

/-- The beginnings of a line are those of the text which hold no line feed. -/
theorem prefix_line_iff {word cs : List Char} :
    word <+: cs.takeWhile (· != '\n') ↔ '\n' ∉ word ∧ word <+: cs := by
  induction word generalizing cs with
  | nil => simp
  | cons w word ih =>
    cases cs with
    | nil => simp
    | cons c cs =>
      by_cases h : c = '\n'
      · subst h
        simp only [List.takeWhile_cons, bne_self_eq_false, Bool.false_eq_true, if_false,
          List.prefix_nil, reduceCtorEq, List.cons_prefix_cons, List.mem_cons, not_or, false_iff,
          not_and]
        rintro ⟨other, -⟩ rfl
        exact absurd rfl other
      · simp only [List.takeWhile_cons, bne_iff_ne.mpr h, if_true, List.cons_prefix_cons, ih,
          List.mem_cons, not_or]
        constructor
        · rintro ⟨rfl, fine, more⟩
          exact ⟨⟨Ne.symm h, fine⟩, rfl, more⟩
        · rintro ⟨⟨-, fine⟩, rfl, more⟩
          exact ⟨rfl, fine, more⟩

/-- A type with the words after it, at the beginning of a line. -/
theorem ends_line_iff {type cs : List Char} :
    (∃ rest, cs.takeWhile (· != '\n') = type ++ (afterType ++ rest)) ↔
      Sentence (beforeType ++ cs) [] type := by
  have words : '\n' ∉ type ++ afterType ↔ '\n' ∉ type := by
    simp [newline_not_mem_afterType]
  rw [Sentence, List.nil_append, List.prefix_append_right_inj, ← words, ← prefix_line_iff]
  constructor
  · rintro ⟨rest, cut⟩
    exact ⟨rest, by rw [cut, List.append_assoc]⟩
  · rintro ⟨rest, cut⟩
    exact ⟨rest, by rw [← cut, List.append_assoc]⟩

/-- Where a sentence begins, the compiler's words stand. -/
theorem Sentence.begins {cs type : List Char} (h : Sentence cs [] type) :
    ∃ rest, beforeType ++ rest = cs := by
  obtain ⟨rest, cut⟩ := h.2
  exact ⟨type ++ afterType ++ rest, by rw [← cut]; simp⟩

theorem typeAt?_eq_none_iff {cs : List Char} :
    typeAt? cs = none ↔ ∀ type, ¬Sentence cs [] type := by
  cases begins : beforeType.isPrefixOf? cs with
  | none =>
    simp only [typeAt?, begins, Option.bind_none, true_iff]
    intro type sentence
    obtain ⟨rest, cut⟩ := sentence.begins
    rw [List.isPrefixOf?_eq_some_iff_append_eq.mpr cut] at begins
    cases begins
  | some rest =>
    obtain rfl := List.isPrefixOf?_eq_some_iff_append_eq.mp begins
    simp only [typeAt?, begins, Option.bind_some, beforeLast?_eq_none_iff, ← ends_line_iff,
      not_exists]

theorem typeAt?_eq_some_iff {cs type : List Char} :
    typeAt? cs = some type ↔ Sentence cs [] type ∧
      ∀ type', Sentence cs [] type' → type'.length ≤ type.length := by
  cases begins : beforeType.isPrefixOf? cs with
  | none =>
    simp only [typeAt?, begins, Option.bind_none, reduceCtorEq, false_iff]
    rintro ⟨sentence, -⟩
    obtain ⟨rest, cut⟩ := sentence.begins
    rw [List.isPrefixOf?_eq_some_iff_append_eq.mpr cut] at begins
    cases begins
  | some rest =>
    obtain rfl := List.isPrefixOf?_eq_some_iff_append_eq.mp begins
    simp only [typeAt?, begins, Option.bind_some, beforeLast?_eq_some_iff, ← ends_line_iff,
      forall_exists_index]

/-- A sentence inside of a message begins the rest of it. -/
theorem sentence_append_iff {front rest type : List Char} :
    Sentence (front ++ rest) front type ↔ Sentence rest [] type := by
  rw [Sentence, Sentence, List.prefix_append_right_inj, List.nil_append]

theorem Sentence.cut {message front type : List Char} (h : Sentence message front type) :
    ∃ rest, message = front ++ rest ∧ Sentence rest [] type := by
  obtain ⟨rest, rfl⟩ := h.2
  refine ⟨beforeType ++ (type ++ afterType) ++ rest, by rw [List.append_assoc], h.1, rest, rfl⟩

/-- **No type is read off a message without a sentence.** -/
theorem ofMessage?_eq_none_iff {message : List Char} :
    ofMessage? message = none ↔ ∀ front type, ¬Sentence message front type := by
  rw [ofMessage?_eq, firstMatch_eq_none_iff]
  constructor
  · intro silent front type sentence
    obtain ⟨rest, rfl, here⟩ := sentence.cut
    exact typeAt?_eq_none_iff.mp (silent front rest rfl) type here
  · rintro silent front rest rfl
    exact typeAt?_eq_none_iff.mpr fun type here =>
      silent front type (sentence_append_iff.mpr here)

/-- **The type that is read off a message is the one that counts.** -/
theorem ofMessage?_eq_some_iff {message type : List Char} :
    ofMessage? message = some type ↔ Says message type := by
  rw [ofMessage?_eq, firstMatch_eq_some_iff]
  constructor
  · rintro ⟨front, rest, rfl, found, first⟩
    obtain ⟨here, longest⟩ := typeAt?_eq_some_iff.mp found
    refine ⟨front, sentence_append_iff.mpr here, fun front' type' sentence => ⟨?_, fun same => ?_⟩⟩
    · obtain ⟨rest', cut, there⟩ := sentence.cut
      by_contra short
      exact typeAt?_eq_none_iff.mp (first front' rest' cut (Nat.lt_of_not_le short)) type' there
    · obtain ⟨rest', cut, there⟩ := sentence.cut
      obtain ⟨rfl, rfl⟩ := List.append_inj cut same.symm
      exact longest type' there
  · rintro ⟨front, sentence, best⟩
    obtain ⟨rest, rfl, here⟩ := sentence.cut
    refine ⟨front, rest, rfl, typeAt?_eq_some_iff.mpr ⟨here, fun type' there => ?_⟩, ?_⟩
    · exact (best front type' (sentence_append_iff.mpr there)).2 rfl
    · intro front' rest' cut short
      refine typeAt?_eq_none_iff.mpr fun type' there => ?_
      have first := (best front' type' (cut ▸ sentence_append_iff.mpr there)).1
      exact absurd short (Nat.not_lt.mpr first)

/-- A message says a type or has no sentence. -/
theorem says_or_silent (message : List Char) :
    (∃ type, Says message type) ∨ ∀ front type, ¬Sentence message front type := by
  cases read : ofMessage? message with
  | none => exact .inr (ofMessage?_eq_none_iff.mp read)
  | some type => exact .inl ⟨type, ofMessage?_eq_some_iff.mp read⟩

/-- No end of the words after a type is a beginning of them. -/
theorem no_border {k : Nat} (more : 0 < k) (less : k < afterType.length) :
    ¬afterType.drop k <+: afterType := by
  have all : ∀ k, k < afterType.length → 0 < k →
      ¬(afterType.drop k).isPrefixOf afterType = true := by decide
  rw [← List.isPrefixOf_iff_prefix]
  exact all k less more

/-- **A message that is one sentence says its type.** What follows does not say the words after a
type once more on that line. -/
theorem says_plain {type rest : List Char} (fine : '\n' ∉ type)
    (once : ¬afterType <:+: rest.takeWhile (· != '\n')) :
    Says (beforeType ++ (type ++ (afterType ++ rest))) type := by
  refine ⟨[], ⟨fine, rest, by simp⟩, fun front' type' sentence => ⟨Nat.zero_le _, fun same => ?_⟩⟩
  obtain rfl := List.eq_nil_of_length_eq_zero same
  have reach := sentence.2
  rw [List.nil_append, List.prefix_append_right_inj] at reach
  by_contra long
  -- the longer type would reach into what follows
  obtain ⟨gap, rfl⟩ : type <+: type' :=
    List.prefix_of_prefix_length_le (List.prefix_append _ _)
      ((List.prefix_append _ _).trans reach) (by omega)
  rw [List.append_assoc, List.prefix_append_right_inj] at reach
  have tight : 0 < gap.length := by
    rw [List.length_append] at long
    omega
  by_cases short : gap.length < afterType.length
  · obtain ⟨back, overlap⟩ : gap <+: afterType :=
      List.prefix_of_prefix_length_le ((List.prefix_append _ _).trans reach)
        (List.prefix_append _ _) short.le
    have drop : afterType.drop gap.length = back := by
      rw [← overlap, List.drop_left]
    rw [← overlap, List.append_assoc, List.prefix_append_right_inj, overlap] at reach
    refine no_border tight short ?_
    rw [drop]
    refine List.prefix_of_prefix_length_le (List.prefix_append _ _) reach ?_
    rw [← overlap, List.length_append]
    omega
  · obtain ⟨more, rfl⟩ : afterType <+: gap :=
      List.prefix_of_prefix_length_le (List.prefix_append _ _)
        ((List.prefix_append _ _).trans reach) (Nat.le_of_not_lt short)
    rw [List.append_assoc, List.prefix_append_right_inj] at reach
    have line : more ++ afterType <+: rest.takeWhile (· != '\n') := by
      refine prefix_line_iff.mpr ⟨?_, reach⟩
      have fine' := sentence.1
      simp only [List.mem_append, not_or] at fine' ⊢
      exact ⟨fine'.2.2, newline_not_mem_afterType⟩
    exact once ((List.suffix_append _ _).isInfix.trans line.isInfix)

theorem Says.unique {message type type' : List Char} (h : Says message type)
    (h' : Says message type') : type = type' := by
  have both := (ofMessage?_eq_some_iff.mpr h).symm.trans (ofMessage?_eq_some_iff.mpr h')
  exact Option.some.inj both

/-! ## What is declared -/

/-- A type with the word for its kind in front, and the type without it. -/
inductive Kinded : List Char → List Char → Prop
  | contract (name : List Char) : Kinded ("contract ".toList ++ name) name
  | struct (name : List Char) : Kinded ("struct ".toList ++ name) name
  | enum (name : List Char) : Kinded ("enum ".toList ++ name) name
  | bare {name : List Char} (noContract : ¬"contract ".toList <+: name)
      (noStruct : ¬"struct ".toList <+: name) (noEnum : ¬"enum ".toList <+: name) :
      Kinded name name

/-- A type whose value lives in storage, and the type of its copy in memory. -/
inductive Moves : List Char → List Char → Prop
  | ref (name : List Char) : Moves (name ++ " storage ref".toList) (name ++ " memory".toList)
  | pointer (name : List Char) :
      Moves (name ++ " storage pointer".toList) (name ++ " memory".toList)
  | stays {name : List Char} (noRef : ¬" storage ref".toList <:+ name)
      (noPointer : ¬" storage pointer".toList <:+ name) : Moves name name

/-- What is declared for a type in the compiler's words. A literal gets the widest type of its kind;
any other type loses the word for its kind, and what lives in storage is copied. -/
inductive Declares : List Char → List Char → Prop
  | negative {words : List Char} (literal : "int_const -".toList <+: words) :
      Declares words "int".toList
  | whole {words : List Char} (literal : "int_const ".toList <+: words)
      (positive : ¬"int_const -".toList <+: words) : Declares words "uint".toList
  | text {words : List Char} (literal : "literal_string ".toList <+: words) :
      Declares words "string memory".toList
  | named {words name type : List Char} (noNumber : ¬"int_const ".toList <+: words)
      (noText : ¬"literal_string ".toList <+: words) (kinded : Kinded words name)
      (moves : Moves name type) : Declares words type

theorem Kinded.dropKind {cs name : List Char} (kinded : Kinded cs name) : dropKind cs = name := by
  cases kinded with
  | contract | struct | enum => rfl
  | bare noContract noStruct noEnum =>
    rw [ReturnType.dropKind, kinds, List.findSome?_cons, isPrefixOf?_absent noContract,
      List.findSome?_cons, isPrefixOf?_absent noStruct, List.findSome?_cons,
      isPrefixOf?_absent noEnum]
    rfl

theorem exists_kinded (cs : List Char) : ∃ name, Kinded cs name := by
  by_cases contract : "contract ".toList <+: cs
  · obtain ⟨name, rfl⟩ := contract
    exact ⟨name, .contract name⟩
  by_cases struct : "struct ".toList <+: cs
  · obtain ⟨name, rfl⟩ := struct
    exact ⟨name, .struct name⟩
  by_cases enum : "enum ".toList <+: cs
  · obtain ⟨name, rfl⟩ := enum
    exact ⟨name, .enum name⟩
  exact ⟨cs, .bare contract struct enum⟩

theorem Moves.toMemory {name type : List Char} (moves : Moves name type) :
    toMemory name = type := by
  cases moves with
  | ref name =>
    have ends : " storage ref".toList.isSuffixOf (name ++ " storage ref".toList) = true :=
      List.isSuffixOf_iff_suffix.mpr (List.suffix_append _ _)
    rw [ReturnType.toMemory, storageEnds, List.find?_cons, ends]
    simp
  | pointer name =>
    have ends : " storage pointer".toList.isSuffixOf (name ++ " storage pointer".toList) = true :=
      List.isSuffixOf_iff_suffix.mpr (List.suffix_append _ _)
    have noRef : " storage ref".toList.isSuffixOf (name ++ " storage pointer".toList) = false := by
      rw [← Bool.not_eq_true, List.isSuffixOf_iff_suffix]
      intro ref
      have inside := List.suffix_of_suffix_length_le ref (List.suffix_append _ _) (by decide)
      revert inside
      decide
    rw [ReturnType.toMemory, storageEnds, List.find?_cons, noRef, List.find?_cons, ends]
    simp
  | stays noRef noPointer =>
    rw [← List.isSuffixOf_iff_suffix, Bool.not_eq_true] at noRef noPointer
    rw [ReturnType.toMemory, storageEnds, List.find?_cons, noRef, List.find?_cons, noPointer]
    rfl

theorem exists_moves (name : List Char) : ∃ type, Moves name type := by
  by_cases ref : " storage ref".toList <:+ name
  · obtain ⟨name, rfl⟩ := ref
    exact ⟨_, .ref name⟩
  by_cases pointer : " storage pointer".toList <:+ name
  · obtain ⟨name, rfl⟩ := pointer
    exact ⟨_, .pointer name⟩
  exact ⟨name, .stays ref pointer⟩

/-- No text begins with two words of which none begins the other. -/
theorem not_isPrefix_of {word other cs : List Char} (le : word.length ≤ other.length)
    (apart : ¬word <+: other) (begins : other <+: cs) : ¬word <+: cs :=
  fun first => apart (List.prefix_of_prefix_length_le first begins le)

theorem Declares.declaredChars {cs type : List Char} (declares : Declares (strip cs) type) :
    declaredChars cs = type := by
  simp only [ReturnType.declaredChars, List.isPrefixOf_iff_prefix]
  cases declares with
  | negative literal => rw [if_pos literal]
  | whole literal positive => rw [if_neg positive, if_pos literal]
  | text literal =>
    rw [if_neg (not_isPrefix_of (by decide) (by decide) literal),
      if_neg (not_isPrefix_of (by decide) (by decide) literal), if_pos literal]
  | named noNumber noText kinded moves =>
    have positive : ¬"int_const -".toList <+: strip cs :=
      fun negative => noNumber (.trans (by decide) negative)
    rw [if_neg positive, if_neg noNumber, if_neg noText, kinded.dropKind, moves.toMemory]

theorem exists_declares (words : List Char) : ∃ type, Declares words type := by
  by_cases number : "int_const ".toList <+: words
  · by_cases negative : "int_const -".toList <+: words
    · exact ⟨_, .negative negative⟩
    · exact ⟨_, .whole number negative⟩
  by_cases text : "literal_string ".toList <+: words
  · exact ⟨_, .text text⟩
  obtain ⟨name, kinded⟩ := exists_kinded words
  obtain ⟨type, moves⟩ := exists_moves name
  exact ⟨type, .named number text kinded moves⟩

/-- **What is declared for a type is what its words mean.** -/
theorem declaredChars_eq_iff {cs type : List Char} :
    declaredChars cs = type ↔ Declares (strip cs) type := by
  refine ⟨?_, Declares.declaredChars⟩
  rintro rfl
  obtain ⟨type, declares⟩ := exists_declares (strip cs)
  rwa [declares.declaredChars]

end SolidityRepl.ReturnType
