/-!
# Values by name

A list of names with their values, in the order in which the names first came. A value put under a
name that is there takes the place of the old one.
-/

namespace SolidityRepl

/-- Names with values, oldest name first. -/
abbrev Keyed (α : Type) := List (String × α)

namespace Keyed

variable {α : Type}

def get? (key : String) : Keyed α → Option α
  | [] => none
  | (k, v) :: rest => if k = key then some v else get? key rest

/-- A value under a name. A name that is there keeps its place. -/
def put (key : String) (value : α) : Keyed α → Keyed α
  | [] => [(key, value)]
  | (k, v) :: rest => if k = key then (k, value) :: rest else (k, v) :: put key value rest

def keys (entries : Keyed α) : List String := entries.map (·.1)

def putAll (new entries : Keyed α) : Keyed α := new.foldl (fun acc e => put e.1 e.2 acc) entries

theorem get?_put (key : String) (value : α) (entries : Keyed α) (k : String) :
    get? k (put key value entries) = if key = k then some value else get? k entries := by
  induction entries with
  | nil => simp [put, get?]
  | cons e rest ih =>
    obtain ⟨k', v⟩ := e
    by_cases h : k' = key
    · subst h; by_cases hk : k' = k <;> simp [put, get?, hk]
    · by_cases hk : k' = k
      · subst hk; simp [put, get?, h, Ne.symm h]
      · simp [put, get?, h, hk, ih]

theorem keys_put (key : String) (value : α) (entries : Keyed α) :
    keys (put key value entries) = if key ∈ keys entries then keys entries
      else keys entries ++ [key] := by
  induction entries with
  | nil => simp [put, keys]
  | cons e rest ih =>
    obtain ⟨k', v⟩ := e
    by_cases h : k' = key
    · subst h; simp [put, keys]
    · simp only [put, h, if_false, keys, List.map_cons] at ih ⊢
      rw [ih]
      by_cases hm : key ∈ List.map (·.1) rest <;> simp [hm, Ne.symm h]

theorem mem_of_mem_put {key : String} {value : α} {entries : Keyed α} {e : String × α}
    (among : e ∈ put key value entries) : e = (key, value) ∨ e ∈ entries := by
  induction entries with
  | nil => exact .inl (List.mem_singleton.mp among)
  | cons old rest ih =>
    rw [put] at among
    split at among
    · rename_i same
      subst same
      rcases List.mem_cons.mp among with rfl | among
      · exact .inl rfl
      · exact .inr (List.mem_cons_of_mem old among)
    · rcases List.mem_cons.mp among with rfl | among
      · exact .inr List.mem_cons_self
      · exact (ih among).imp_right (List.mem_cons_of_mem old)

/-- What is there afterwards was put, or was there before. -/
theorem mem_of_mem_putAll {new entries : Keyed α} {e : String × α}
    (among : e ∈ putAll new entries) : e ∈ new ∨ e ∈ entries := by
  induction new generalizing entries with
  | nil => exact .inr among
  | cons first rest ih =>
    rcases ih among with among | among
    · exact .inl (List.mem_cons_of_mem first among)
    · rcases mem_of_mem_put among with rfl | among
      · exact .inl List.mem_cons_self
      · exact .inr among

theorem put_of_not_mem {key : String} {value : α} {entries : Keyed α}
    (absent : key ∉ keys entries) : put key value entries = entries ++ [(key, value)] := by
  induction entries with
  | nil => rfl
  | cons e rest ih =>
    have other : e.1 ≠ key := fun same => absent (same ▸ List.mem_cons_self)
    rw [put, if_neg other, ih fun among => absent (List.mem_cons_of_mem _ among), List.cons_append]

/-- Values under new names, no two of them the same, come last in their order. -/
theorem putAll_of_nodup {new entries : Keyed α} (distinct : (keys (entries ++ new)).Nodup) :
    putAll new entries = entries ++ new := by
  induction new generalizing entries with
  | nil => rw [List.append_nil]; rfl
  | cons e rest ih =>
    have absent : e.1 ∉ keys entries := by
      rw [keys, List.map_append, List.map_cons, List.nodup_append] at distinct
      exact fun among => distinct.2.2 _ among _ List.mem_cons_self rfl
    show putAll rest (put e.1 e.2 entries) = _
    rw [put_of_not_mem absent, ih (by rwa [List.append_assoc]), List.append_assoc]
    rfl

/-- Of different names, each is put once. -/
theorem nodup_keys_putAll (new : Keyed α) {entries : Keyed α} (distinct : (keys entries).Nodup) :
    (keys (putAll new entries)).Nodup := by
  induction new generalizing entries with
  | nil => exact distinct
  | cons e rest ih =>
    refine ih ?_
    rw [keys_put]
    by_cases known : e.1 ∈ keys entries
    · rwa [if_pos known]
    · rw [if_neg known, List.nodup_append]
      refine ⟨distinct, List.pairwise_singleton _ _, fun k among k' new same => known ?_⟩
      rw [← List.mem_singleton.mp new, ← same]
      exact among

theorem get?_eq_none {k : String} {entries : Keyed α} (absent : k ∉ keys entries) :
    get? k entries = none := by
  induction entries with
  | nil => rfl
  | cons e rest ih =>
    have other : e.1 ≠ k := fun same => absent (same ▸ List.mem_cons_self)
    rw [get?, if_neg other]
    exact ih fun among => absent (List.mem_cons_of_mem _ among)

/-- A value is found under its name, if no other name is the same. -/
theorem get?_of_mem {k : String} {v : α} {entries : Keyed α} (distinct : (keys entries).Nodup)
    (among : (k, v) ∈ entries) : get? k entries = some v := by
  induction entries with
  | nil => cases among
  | cons e rest ih =>
    obtain ⟨first, distinct⟩ := List.nodup_cons.mp distinct
    rcases List.mem_cons.mp among with rfl | among
    · exact if_pos rfl
    · have there : k ∈ keys rest := List.mem_map_of_mem among
      have other : e.1 ≠ k := by
        rintro rfl
        exact first there
      rw [get?, if_neg other]
      exact ih distinct among

theorem get?_putAll {new : Keyed α} (distinct : (keys new).Nodup) (entries : Keyed α) (k : String) :
    get? k (putAll new entries) = (get? k new).or (get? k entries) := by
  induction new generalizing entries with
  | nil => rfl
  | cons e rest ih =>
    obtain ⟨first, distinct⟩ := List.nodup_cons.mp distinct
    show get? k (putAll rest (put e.1 e.2 entries)) = _
    rw [ih distinct, get?_put, get?]
    by_cases same : e.1 = k
    · rw [if_pos same, if_pos same, get?_eq_none (same ▸ first)]
      rfl
    · rw [if_neg same, if_neg same]

end Keyed

end SolidityRepl
