import SolidityRepl.Keyed

namespace SolidityRepl.Keyed

variable {α : Type}

theorem mem_of_get? {k : String} {v : α} {entries : Keyed α} (found : get? k entries = some v) :
    (k, v) ∈ entries := by
  induction entries with
  | nil => cases found
  | cons e rest ih =>
    rw [get?] at found
    split at found
    · rename_i same
      cases found
      rw [← same]
      exact List.mem_cons_self
    · exact List.mem_cons_of_mem e (ih found)

theorem get?_isSome_iff {k : String} {entries : Keyed α} :
    (get? k entries).isSome ↔ k ∈ keys entries := by
  constructor
  · intro found
    obtain ⟨v, found⟩ := Option.isSome_iff_exists.mp found
    exact List.mem_map_of_mem (mem_of_get? found)
  · intro among
    induction entries with
    | nil => cases among
    | cons e rest ih =>
      rw [get?]
      split
      · rfl
      · rename_i other
        rcases List.mem_cons.mp among with rfl | among
        · exact absurd rfl other
        · exact ih among

/-- A value is put in the place of the first one of its name, and nothing else is changed. -/
theorem exists_put {k : String} {old : α} {entries : Keyed α} (found : get? k entries = some old)
    (v : α) : ∃ front back, entries = front ++ (k, old) :: back ∧ (∀ e ∈ front, e.1 ≠ k) ∧
      put k v entries = front ++ (k, v) :: back := by
  induction entries with
  | nil => cases found
  | cons e rest ih =>
    obtain ⟨k', first⟩ := e
    rw [get?] at found
    rw [put]
    by_cases same : k' = k
    · subst same
      rw [if_pos rfl] at found ⊢
      obtain rfl := Option.some.inj found
      exact ⟨[], rest, rfl, List.forall_mem_nil _, rfl⟩
    · rw [if_neg same] at found ⊢
      obtain ⟨front, back, rfl, others, placed⟩ := ih found
      rw [placed]
      exact ⟨(k', first) :: front, back, rfl, List.forall_mem_cons.mpr ⟨same, others⟩, rfl⟩

theorem get?_map {β : Type} (entries : Keyed α) (f : String → α → β) (k : String) :
    get? k (entries.map fun e => (e.1, f e.1 e.2)) = (get? k entries).map (f k) := by
  induction entries with
  | nil => rfl
  | cons e rest ih =>
    rw [List.map_cons, get?, get?]
    by_cases same : e.1 = k
    · rw [if_pos same, if_pos same, same]
      rfl
    · rw [if_neg same, if_neg same, ih]

theorem mem_keys_putAll {k : String} {new entries : Keyed α} :
    k ∈ keys (putAll new entries) ↔ k ∈ keys new ∨ k ∈ keys entries := by
  induction new generalizing entries with
  | nil => exact (or_iff_right List.not_mem_nil).symm
  | cons e rest ih =>
    have first : k ∈ keys (put e.1 e.2 entries) ↔ k = e.1 ∨ k ∈ keys entries := by
      rw [keys_put]
      split
      · rename_i known
        exact ⟨.inr, fun among => among.elim (fun same => same ▸ known) id⟩
      · rw [List.mem_append, List.mem_singleton, or_comm]
    have cons : k ∈ keys (e :: rest) ↔ k = e.1 ∨ k ∈ keys rest := List.mem_cons
    show k ∈ keys (putAll rest (put e.1 e.2 entries)) ↔ _
    rw [ih, first, cons, or_left_comm, or_assoc]

/-- The one value of a kind among others is the one that was put. -/
theorem filter_put {p : String × α → Bool} {k : String} {v : α} {entries : Keyed α}
    (others : entries.filter p = []) (own : p (k, v) = true) :
    (put k v entries).filter p = [(k, v)] := by
  induction entries with
  | nil => exact List.filter_cons_of_pos own
  | cons e rest ih =>
    have unlike := List.filter_eq_nil_iff.mp others
    have later : rest.filter p = [] :=
      List.filter_eq_nil_iff.mpr fun e among => unlike e (List.mem_cons_of_mem _ among)
    rw [put]
    split
    · rename_i same
      rw [List.filter_cons_of_pos (same ▸ own), later, same]
    · rw [List.filter_cons_of_neg (unlike e List.mem_cons_self), ih later]

theorem putAll_append (new later entries : Keyed α) :
    putAll (new ++ later) entries = putAll later (putAll new entries) := List.foldl_append

/-- **Of values under one name the last one is found**, if they came in lists that name each one
once. -/
theorem get?_putAll_flatten {lists : List (Keyed α)} (distinct : ∀ l ∈ lists, (keys l).Nodup)
    (entries : Keyed α) (k : String) :
    get? k (putAll lists.flatten entries) =
      ((lists.filterMap (get? k)).getLast?).or (get? k entries) := by
  induction lists generalizing entries with
  | nil => rfl
  | cons first rest ih =>
    obtain ⟨own, later⟩ := List.forall_mem_cons.mp distinct
    rw [List.flatten_cons, putAll_append, ih later, get?_putAll own]
    cases there : get? k first with
    | none => rw [List.filterMap_cons_none there, Option.none_or]
    | some v =>
      rw [List.filterMap_cons_some there, List.getLast?_cons]
      cases (rest.filterMap (get? k)).getLast? <;> rfl

end SolidityRepl.Keyed
