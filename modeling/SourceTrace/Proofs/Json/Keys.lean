import SourceTrace.Json.Basic

/-!
# Keys of objects

An object that was read from a document has no key twice, because a repeated key keeps its first
position and its last value. `Json.hasDistinctKeys` says so of all objects in a value, and this is
what readers of a document rely on: the order of members does not matter to them then.
-/

namespace SourceTrace.Json

mutual

/-- Whether no object in a value has a key twice. -/
def hasDistinctKeys : Json → Bool
  | .arr items => itemsHaveDistinctKeys items
  | .obj members => decide (members.map Prod.fst).Nodup && membersHaveDistinctKeys members
  | _ => true

/-- Whether no object in the items of an array has a key twice. -/
def itemsHaveDistinctKeys : List Json → Bool
  | [] => true
  | item :: rest => hasDistinctKeys item && itemsHaveDistinctKeys rest

/-- Whether no object in the values of members has a key twice. -/
def membersHaveDistinctKeys : List (String × Json) → Bool
  | [] => true
  | (_, value) :: rest => hasDistinctKeys value && membersHaveDistinctKeys rest

end

/-- Items have distinct keys exactly if each of them has. -/
theorem itemsHaveDistinctKeys_iff {items : List Json} :
    itemsHaveDistinctKeys items = true ↔ ∀ item ∈ items, item.hasDistinctKeys = true := by
  induction items with
  | nil => simp [itemsHaveDistinctKeys]
  | cons item rest inductionHypothesis => simp [itemsHaveDistinctKeys, inductionHypothesis]

section Members

variable {key : String} {value : Json} {members : List (String × Json)}

/-- Members have distinct keys in their values exactly if each value has. -/
theorem membersHaveDistinctKeys_iff :
    membersHaveDistinctKeys members = true ↔
      ∀ member ∈ members, member.2.hasDistinctKeys = true := by
  induction members with
  | nil => simp [membersHaveDistinctKeys]
  | cons member rest inductionHypothesis =>
    simp [membersHaveDistinctKeys, inductionHypothesis]

/-- What is found under a key is a member. -/
theorem mem_of_lookup (found : members.lookup key = some value) : (key, value) ∈ members := by
  obtain ⟨before, after, rfl, -⟩ := List.lookup_eq_some_iff.mp found
  exact List.mem_append_right before List.mem_cons_self

/-- Nothing is found under a key that no member has. -/
theorem lookup_eq_none_of_notMem (fresh : key ∉ members.map Prod.fst) :
    members.lookup key = none := by
  rw [List.lookup_eq_none_iff]
  intro member mem
  exact bne_iff_ne.mpr fun same => fresh (same ▸ List.mem_map_of_mem mem)

/-- A member under another key does not matter to a look-up. -/
theorem lookup_append_cons_of_ne {before after : List (String × Json)} {other : String}
    (differ : key ≠ other) (value : Json) :
    (before ++ (other, value) :: after).lookup key = (before ++ after).lookup key := by
  rw [List.lookup_append, List.lookup_append, List.lookup_cons, beq_eq_false_iff_ne.mpr differ]

/-- The order of members does not matter to a look-up if no key occurs twice. -/
theorem lookup_eq_of_perm {others : List (String × Json)} (permuted : members.Perm others)
    (distinct : (members.map Prod.fst).Nodup) : members.lookup key = others.lookup key := by
  induction permuted with
  | nil => rfl
  | cons member permuted inductionHypothesis =>
    obtain ⟨first, value⟩ := member
    rw [List.lookup_cons, List.lookup_cons, inductionHypothesis (List.nodup_cons.mp distinct).2]
  | swap first second rest =>
    obtain ⟨firstKey, firstValue⟩ := first
    obtain ⟨secondKey, secondValue⟩ := second
    have differ : secondKey ≠ firstKey := by
      intro same
      exact (List.nodup_cons.mp distinct).1 (same ▸ List.mem_cons_self)
    simp only [List.lookup_cons]
    by_cases isFirst : key = firstKey
    · have notSecond : (key == secondKey) = false :=
        beq_eq_false_iff_ne.mpr (isFirst ▸ differ.symm)
      simp only [notSecond]
    · have notFirst : (key == firstKey) = false := beq_eq_false_iff_ne.mpr isFirst
      simp only [notFirst]
  | trans permuted _ firstHypothesis secondHypothesis =>
    have stillDistinct := (permuted.map Prod.fst).nodup_iff.mp distinct
    rw [firstHypothesis distinct, secondHypothesis stillDistinct]

/-- The keys of an object are distinct. -/
theorem nodup_members (distinct : value.hasDistinctKeys = true) :
    (value.members.map Prod.fst).Nodup := by
  cases value with
  | obj members =>
    simp only [hasDistinctKeys, Bool.and_eq_true, decide_eq_true_eq] at distinct
    exact distinct.1
  | _ => exact List.nodup_nil

/-- What stands under a key has distinct keys as well. -/
theorem hasDistinctKeys_of_get? {inner : Json} (distinct : value.hasDistinctKeys = true)
    (present : value.get? key = some inner) : inner.hasDistinctKeys = true := by
  cases value with
  | obj members =>
    simp only [hasDistinctKeys, Bool.and_eq_true] at distinct
    exact membersHaveDistinctKeys_iff.mp distinct.2 (key, inner) (mem_of_lookup present)
  | _ => cases present

end Members

end SourceTrace.Json
