import Mathlib.Data.List.Forall2
import Mathlib.Logic.Relation
import SourceTrace.Proofs.Json.Keys

/-!
# Parts of values and members that are `null`

A value holds its items and the values of its members, and its parts are what it holds at any depth.
`NullsDropped` relates a value to what is left of it when some members that are `null` are dropped,
wherever they stand; items of arrays are never dropped. Where no key occurs twice, a look-up finds
out about a dropped member only by missing a `null`: `MembersDropped.lookup_cases`.
-/

namespace SourceTrace.Json

/-- A value holds another as an item or as a member. -/
inductive Holds : Json → Json → Prop where
  | item {items : List Json} {item : Json} (mem : item ∈ items) : Holds (.arr items) item
  | member {members : List (String × Json)} {key : String} {value : Json}
      (mem : (key, value) ∈ members) : Holds (.obj members) value

/-- A value is part of another: it is the value itself, or held by a part of it. -/
def HasPart : Json → Json → Prop :=
  Relation.ReflTransGen Holds

/-- Members of which some that are `null` are dropped, while the values of the others are
related. -/
inductive MembersDropped (Related : Json → Json → Prop) :
    List (String × Json) → List (String × Json) → Prop where
  | nil : MembersDropped Related [] []
  | keep {key : String} {value kept : Json} {rest remaining : List (String × Json)}
      (related : Related value kept) (tail : MembersDropped Related rest remaining) :
      MembersDropped Related ((key, value) :: rest) ((key, kept) :: remaining)
  | drop {key : String} {rest remaining : List (String × Json)}
      (tail : MembersDropped Related rest remaining) :
      MembersDropped Related ((key, .null) :: rest) remaining

/-- A value from which any members that are `null` are dropped, at any depth. Items of arrays
stay. -/
inductive NullsDropped : Json → Json → Prop where
  | refl (value : Json) : NullsDropped value value
  | arr {items others : List Json} (kept : List.Forall₂ NullsDropped items others) :
      NullsDropped (.arr items) (.arr others)
  | obj {members others : List (String × Json)}
      (kept : MembersDropped NullsDropped members others) :
      NullsDropped (.obj members) (.obj others)

section Parts

variable {outer inner : Json}

/-- What a value holds is smaller than the value. -/
theorem Holds.sizeOf_lt (holds : outer.Holds inner) : sizeOf inner < sizeOf outer := by
  cases holds with
  | item mem =>
    have smaller := List.sizeOf_lt_of_mem mem
    simp only [arr.sizeOf_spec]
    omega
  | member mem =>
    have smaller := List.sizeOf_lt_of_mem mem
    simp only [obj.sizeOf_spec, Prod.mk.sizeOf_spec] at smaller ⊢
    omega

/-- An object holds its members. -/
theorem holds_of_get? {key : String} (present : outer.get? key = some inner) :
    outer.Holds inner := by
  cases outer with
  | obj members => exact .member (mem_of_lookup present)
  | _ => cases present

/-- What a value holds at any depth is smaller than the value. -/
theorem sizeOf_lt_of_transGen (held : Relation.TransGen Holds outer inner) :
    sizeOf inner < sizeOf outer := by
  induction held with
  | single holds => exact holds.sizeOf_lt
  | tail _ holds inductionHypothesis => exact Nat.lt_trans holds.sizeOf_lt inductionHypothesis

/-- What holds of a value once it holds of all that lies in it holds of every value. -/
theorem induction_parts {motive : Json → Prop}
    (step : ∀ value : Json, (∀ inner, Relation.TransGen Holds value inner → motive inner) →
      motive value) (value : Json) : motive value :=
  step value fun inner _ => induction_parts step inner
  termination_by sizeOf value
  decreasing_by exact sizeOf_lt_of_transGen ‹_›

/-- What a value with distinct keys holds has distinct keys. -/
theorem Holds.hasDistinctKeys (holds : outer.Holds inner)
    (distinct : outer.hasDistinctKeys = true) :
    inner.hasDistinctKeys = true := by
  cases holds with
  | item mem =>
    rw [Json.hasDistinctKeys] at distinct
    exact itemsHaveDistinctKeys_iff.mp distinct inner mem
  | member mem =>
    simp only [Json.hasDistinctKeys, Bool.and_eq_true] at distinct
    exact membersHaveDistinctKeys_iff.mp distinct.2 _ mem

/-- Every part of a value with distinct keys has distinct keys. -/
theorem HasPart.hasDistinctKeys (part : outer.HasPart inner)
    (distinct : outer.hasDistinctKeys = true) :
    inner.hasDistinctKeys = true := by
  induction part with
  | refl => exact distinct
  | tail _ holds inductionHypothesis => exact holds.hasDistinctKeys inductionHypothesis

end Parts

section Dropped

variable {Related : Json → Json → Prop} {members others : List (String × Json)}
  {value other : Json}

/-- The keys that are left are in their old order. -/
theorem MembersDropped.keys_sublist (dropped : MembersDropped Related members others) :
    (others.map Prod.fst).Sublist (members.map Prod.fst) := by
  induction dropped with
  | nil => exact List.Sublist.slnil
  | keep related tail inductionHypothesis => exact inductionHypothesis.cons_cons _
  | drop tail inductionHypothesis => exact inductionHypothesis.cons _

/-- What is found under a key is kept, unless it was `null` or missing before. -/
theorem MembersDropped.lookup_cases (dropped : MembersDropped Related members others)
    (distinct : (members.map Prod.fst).Nodup) (key : String) :
    (∃ value kept, members.lookup key = some value ∧ others.lookup key = some kept ∧
        Related value kept) ∨
      (others.lookup key = none ∧ ∀ value, members.lookup key = some value →
        value = .null) := by
  induction dropped with
  | nil => exact .inr ⟨rfl, nofun⟩
  | @keep first value kept rest remaining related tail inductionHypothesis =>
    rw [List.lookup_cons, List.lookup_cons]
    cases key == first with
    | true => exact .inl ⟨value, kept, rfl, rfl, related⟩
    | false => exact inductionHypothesis (List.nodup_cons.mp distinct).2
  | @drop first rest remaining tail inductionHypothesis =>
    obtain ⟨fresh, distinctRest⟩ := List.nodup_cons.mp distinct
    rw [List.lookup_cons]
    by_cases here : key = first
    · -- No later member has the key of the one that was dropped.
      have missing : remaining.lookup key = none :=
        lookup_eq_none_of_notMem fun later => fresh (here ▸ tail.keys_sublist.subset later)
      refine .inr ⟨missing, fun value found => ?_⟩
      rw [here, beq_self_eq_true] at found
      exact (Option.some.inj found).symm
    · rw [beq_eq_false_iff_ne.mpr here]
      exact inductionHypothesis distinctRest

/-- Dropping nulls inside a value does not make it null. -/
theorem NullsDropped.isNull_eq (dropped : value.NullsDropped other) :
    value.isNull = other.isNull := by
  cases dropped <;> rfl

/-- Dropping nulls keeps texts. -/
theorem NullsDropped.text?_eq (dropped : value.NullsDropped other) : value.text? = other.text? := by
  cases dropped <;> rfl

/-- Members that come first may stay as they are. -/
theorem MembersDropped.append_left (before : List (String × Json))
    (dropped : MembersDropped NullsDropped members others) :
    MembersDropped NullsDropped (before ++ members) (before ++ others) := by
  induction before with
  | nil => exact dropped
  | cons member rest inductionHypothesis => exact .keep (.refl member.2) inductionHypothesis

/-- Nothing needs to be dropped. -/
theorem MembersDropped.refl (members : List (String × Json)) :
    MembersDropped NullsDropped members members := by
  have dropped := MembersDropped.append_left members .nil
  rwa [List.append_nil] at dropped

/-- What is found under a key is kept, unless it was `null` or missing before. -/
theorem NullsDropped.get?_cases (dropped : value.NullsDropped other)
    (distinct : value.hasDistinctKeys = true) (key : String) :
    (∃ found kept, value.get? key = some found ∧ other.get? key = some kept ∧
        found.NullsDropped kept) ∨
      (other.get? key = none ∧ ∀ found, value.get? key = some found → found = .null) := by
  cases dropped with
  | refl =>
    cases present : value.get? key with
    | none => exact .inr ⟨rfl, nofun⟩
    | some found => exact .inl ⟨found, found, rfl, rfl, .refl found⟩
  | arr kept => exact .inr ⟨rfl, nofun⟩
  | obj kept => exact kept.lookup_cases (nodup_members distinct) key

/-- A text under a key is neither lost nor gained. -/
theorem NullsDropped.get?_text?_eq (dropped : value.NullsDropped other)
    (distinct : value.hasDistinctKeys = true) (key : String) :
    (value.get? key).bind text? = (other.get? key).bind text? := by
  obtain ⟨found, kept, present, otherPresent, related⟩ | ⟨missing, null⟩ :=
    dropped.get?_cases distinct key
  · rw [present, otherPresent, Option.bind_some, Option.bind_some, related.text?_eq]
  · rw [missing]
    cases present : value.get? key with
    | none => rfl
    | some found =>
      rw [null found present]
      rfl

/-- Nulls can be dropped from one item of an array. -/
theorem NullsDropped.inItem (dropped : value.NullsDropped other) (before after : List Json) :
    (Json.arr (before ++ value :: after)).NullsDropped (.arr (before ++ other :: after)) := by
  have same (items : List Json) : List.Forall₂ NullsDropped items items :=
    List.forall₂_same.mpr fun item _ => .refl item
  exact .arr (List.rel_append (same before) (.cons dropped (same after)))

/-- A member that is `null` can be dropped by itself. -/
theorem exists_get?_dropped {key : String} (null : value.get? key = some .null)
    (distinct : value.hasDistinctKeys = true) :
    ∃ lesser, value.NullsDropped lesser ∧ lesser.get? key = none ∧
      ∀ read, read ≠ key → lesser.get? read = value.get? read := by
  cases value with
  | obj members =>
    obtain ⟨before, after, rfl, -⟩ := List.lookup_eq_some_iff.mp null
    have moved : ((before ++ (key, Json.null) :: after).map Prod.fst).Perm
        (key :: (before ++ after).map Prod.fst) := by simp
    have only : key ∉ (before ++ after).map Prod.fst :=
      (List.nodup_cons.mp (moved.nodup_iff.mp (nodup_members distinct))).1
    refine ⟨.obj (before ++ after), .obj (.append_left before (.drop (.refl after))),
      lookup_eq_none_of_notMem only, fun read differ => ?_⟩
    exact (lookup_append_cons_of_ne differ .null).symm
  | _ => cases null

/-- Nulls can be dropped from the value of one member. -/
theorem exists_lookup_replaced {key : String} {lesser : Json}
    (found : members.lookup key = some value) (dropped : value.NullsDropped lesser) :
    ∃ others, MembersDropped NullsDropped members others ∧ others.lookup key = some lesser ∧
      ∀ read, read ≠ key → others.lookup read = members.lookup read := by
  obtain ⟨before, after, rfl, first⟩ := List.lookup_eq_some_iff.mp found
  refine ⟨before ++ (key, lesser) :: after, .append_left before (.keep dropped (.refl after)), ?_,
    fun read differ => ?_⟩
  · exact List.lookup_eq_some_iff.mpr ⟨before, after, rfl, first⟩
  · rw [lookup_append_cons_of_ne differ, lookup_append_cons_of_ne differ]

end Dropped

end SourceTrace.Json
