import Mathlib.Logic.Relation
import SourceTrace.Proofs.Ast.Attributes
import SourceTrace.Proofs.Ast.Readings
import SourceTrace.Proofs.Json.Keys

/-!
# Annotations and the order of members

The source text of a tree does not depend on the order of members, nor on the annotations of its
nodes, which are the attributes that no rule reads. `UnreadEdit` is one such edit anywhere in a
tree, and `unparse_eq_of_unreadEdits` says that no number of them changes the source text. An edit
deep in a tree is seen by every node above it, so what carries the proof is stronger than equal
texts: the edited values are twins, which no rule can tell apart wherever they stand.
-/

namespace SourceTrace.Ast

open Render (unread importedSymbols usedFunctions importedSymbol? usedFunction)

/-- One edit of a value that rendering does not see. -/
inductive UnreadEdit : Json → Json → Prop where
  /-- The members of an object, none of whose keys occurs twice, are put in another order. -/
  | permute {members others : List (String × Json)} (distinct : (members.map Prod.fst).Nodup)
      (permuted : members.Perm others) : UnreadEdit (.obj members) (.obj others)
  /-- An annotation is added. -/
  | add (before after : List (String × Json)) (key : String) (value : Json)
      (isUnread : key ∈ unread) :
      UnreadEdit (.obj (before ++ after)) (.obj (before ++ (key, value) :: after))
  /-- An annotation is deleted. -/
  | delete (before after : List (String × Json)) (key : String) (value : Json)
      (isUnread : key ∈ unread) :
      UnreadEdit (.obj (before ++ (key, value) :: after)) (.obj (before ++ after))
  /-- An annotation is given another value. -/
  | replace (before after : List (String × Json)) (key : String) (old new : Json)
      (isUnread : key ∈ unread) :
      UnreadEdit (.obj (before ++ (key, old) :: after)) (.obj (before ++ (key, new) :: after))
  /-- An item of an array is edited. -/
  | inItem (before after : List Json) {item other : Json} (edit : UnreadEdit item other) :
      UnreadEdit (.arr (before ++ item :: after)) (.arr (before ++ other :: after))
  /-- The value of a member of an object is edited. -/
  | inMember (before after : List (String × Json)) (key : String) {value other : Json}
      (edit : UnreadEdit value other) :
      UnreadEdit (.obj (before ++ (key, value) :: after)) (.obj (before ++ (key, other) :: after))

namespace Rendered

/-- What is written for a value as a record: as a symbol of an import and as a function of a `using`
list. -/
def record (value : Rendered) : Option String × String :=
  (importedSymbol? value, usedFunction value)

/-- What is written for the items of an array as records. -/
def itemRecords : Rendered → List (Option String × String)
  | .list items _ => items.map record
  | _ => []

/-- Values that no rule can tell apart, under a key, as an item or as a record. -/
structure Twin (value other : Rendered) : Prop where
  alike : value.Alike other
  record_eq : value.record = other.record
  itemRecords_eq : value.itemRecords = other.itemRecords

/-- Every value is a twin of itself. -/
theorem Twin.refl (value : Rendered) : value.Twin value :=
  ⟨.refl value, rfl, rfl⟩

/-- Twins have the same text. -/
theorem Twin.text?_eq {value other : Rendered} (twin : value.Twin other) :
    value.text? = other.text? :=
  congrArg Face.text? twin.alike.face_eq

/-- Arrays are twins if their items are read and written the same. -/
theorem twin_list {items others : List Rendered} (faces : items.map face = others.map face)
    (records : items.map record = others.map record) :
    (Rendered.list items (Text.commas (items.map code))).Twin
      (.list others (Text.commas (others.map code))) := by
  rw [map_code_eq, map_code_eq, faces]
  exact ⟨.list faces, rfl, records⟩

section Nodes

/-- Members that are twins under every key that is read. -/
def TwinMembers (members others : List (String × Rendered)) : Prop :=
  ∀ key ∉ unread, Option.Rel Twin (members.lookup key) (others.lookup key)

variable {members others : List (String × Rendered)}

namespace TwinMembers

/-- Twin members have the same source text under a key that is read. -/
theorem code?_eq (twins : TwinMembers members others) (key : String) (read : key ∉ unread) :
    (members.lookup key).map code = (others.lookup key).map code :=
  rel_congr (twins key read) (Option.map code) fun twin => congrArg some twin.alike.code_eq

/-- Twin members have the same text under a key that is read. -/
theorem text?_eq (twins : TwinMembers members others) (key : String) (read : key ∉ unread) :
    (members.lookup key).bind text? = (others.lookup key).bind text? :=
  rel_congr (twins key read) (Option.bind · text?) fun twin => twin.text?_eq

/-- Members that are twins are alike as attributes. -/
theorem alike (twins : TwinMembers members others) :
    Attributes.Alike ⟨members⟩ ⟨others⟩ where
  kind? := by
    rw [Attributes.kind?, Attributes.kind?, twins.text?_eq "nodeType" (by decide)]
  value? key read := by
    rw [Attributes.value?, Attributes.value?]
    obtain ⟨missing, otherMissing⟩ | ⟨value, other, present, otherPresent, twin⟩ :=
      rel_cases (twins key read)
    · rw [missing, otherMissing]
      exact .none
    · rw [present, otherPresent, Option.filter_some, Option.filter_some, twin.alike.isNull_eq]
      split
      · exact .some twin.alike
      · exact .none

/-- Twin members have the same records under a key that is read. -/
theorem records_eq (twins : TwinMembers members others) (key : String) (read : key ∉ unread) :
    (Attributes.items ⟨members⟩ key).map record =
      (Attributes.items ⟨others⟩ key).map record := by
  have items (members : List (String × Rendered)) :
      (Attributes.items ⟨members⟩ key).map record =
      ((members.lookup key).map itemRecords).getD [] := by
    rw [Attributes.items, Attributes.value?]
    cases members.lookup key with
    | none => rfl
    | some value => cases value <;> rfl
  rw [items, items]
  exact rel_congr (twins key read) (fun found => (found.map itemRecords).getD []) fun twin =>
    twin.itemRecords_eq

/-- Twin members have the same imported symbols and used functions. -/
theorem sameRecords (twins : TwinMembers members others) :
    Attributes.SameRecords ⟨members⟩ ⟨others⟩ where
  symbols _ _ := by
    have symbols (items : List Rendered) :
        items.filterMap importedSymbol? = (items.map record).filterMap Prod.fst := by
      rw [List.filterMap_map]
      rfl
    rw [importedSymbols, importedSymbols, symbols, symbols,
      twins.records_eq "symbolAliases" (by decide)]
  functions _ _ := by
    have functions (items : List Rendered) :
        items.map usedFunction = (items.map record).map Prod.snd := by
      rw [List.map_map]
      rfl
    rw [usedFunctions, usedFunctions, functions, functions,
      twins.records_eq "functionList" (by decide)]

/-- Nodes whose members are twins are written the same as records. -/
theorem record_eq (twins : TwinMembers members others) (code otherCode : String) :
    (Rendered.node members code).record = (Rendered.node others otherCode).record := by
  have function := twins.code?_eq "function" (by decide)
  have definition := twins.code?_eq "definition" (by decide)
  have name := twins.text?_eq "local" (by decide)
  have operator := twins.text?_eq "operator" (by decide)
  apply Prod.ext
  · simp only [record, importedSymbol?, member?, name]
    obtain ⟨missing, otherMissing⟩ | ⟨value, other, present, otherPresent, twin⟩ :=
      rel_cases (twins "foreign" (by decide))
    · rw [missing, otherMissing]
    · rw [present, otherPresent]
      simp only [Option.map_some, twin.alike.code_eq]
  · have written (members : List (String × Rendered)) :
        ((members.lookup "function").orElse fun _ =>
          members.lookup "definition").map Rendered.code =
          ((members.lookup "function").map Rendered.code).orElse fun _ =>
            (members.lookup "definition").map Rendered.code := by
      cases members.lookup "function" <;> rfl
    simp only [record, usedFunction, member?, operator, written, function, definition]

end TwinMembers

/-- Nodes are twins if their members are. -/
theorem twin_node (twins : TwinMembers members others) :
    (Rendered.node members (Render.codeOf ⟨members⟩)).Twin
      (.node others (Render.codeOf ⟨others⟩)) := by
  rw [Render.codeOf_eq_of_alike twins.alike twins.sameRecords]
  exact ⟨.node fun key read => twins.alike.code read, twins.record_eq _ _, rfl⟩

end Nodes

end Rendered

section Edits

variable {members others before after : List (String × Json)} {key other : String}

/-- Objects are twins if all that is looked up in them is. -/
theorem twin_rendered_obj (related : ∀ key ∉ unread,
      Option.Rel (fun value other => (rendered value).Twin (rendered other))
        (members.lookup key) (others.lookup key)) :
    (rendered (.obj members)).Twin (rendered (.obj others)) := by
  apply Rendered.twin_node
  intro key read
  rw [lookup_renderedMembers, lookup_renderedMembers]
  obtain ⟨missing, otherMissing⟩ | ⟨value, other, present, otherPresent, twin⟩ :=
    rel_cases (related key read)
  · rw [missing, otherMissing]
    exact .none
  · rw [present, otherPresent]
    exact .some twin

/-- Objects with the same values under all keys that are read are twins. -/
theorem twin_rendered_obj_of_lookup_eq
    (same : ∀ key ∉ unread, members.lookup key = others.lookup key) :
    (rendered (.obj members)).Twin (rendered (.obj others)) := by
  apply twin_rendered_obj
  intro key read
  rw [same key read]
  cases others.lookup key with
  | none => exact .none
  | some value => exact .some (.refl _)

/-- A twin in place of an item gives a twin of the array. -/
theorem twin_rendered_inItem {before after : List Json} {item other : Json}
    (twin : (rendered item).Twin (rendered other)) :
    (rendered (.arr (before ++ item :: after))).Twin
      (rendered (.arr (before ++ other :: after))) := by
  apply Rendered.twin_list
  · simp only [renderedItems_eq_map, List.map_append, List.map_cons, twin.alike.face_eq]
  · simp only [renderedItems_eq_map, List.map_append, List.map_cons, twin.record_eq]

/-- A twin in place of the value of a member gives a twin of the object. -/
theorem twin_rendered_inMember {value edited : Json}
    (twin : (rendered value).Twin (rendered edited)) :
    (rendered (.obj (before ++ (other, value) :: after))).Twin
      (rendered (.obj (before ++ (other, edited) :: after))) := by
  apply twin_rendered_obj
  intro key _
  rw [List.lookup_append, List.lookup_append]
  cases before.lookup key with
  | some earlier => exact .some (.refl _)
  | none =>
    rw [Option.none_or, Option.none_or, List.lookup_cons, List.lookup_cons]
    cases key == other with
    | true => exact .some twin
    | false =>
      cases after.lookup key with
      | none => exact .none
      | some later => exact .some (.refl _)

/-- An edit makes a twin of the value. -/
theorem twin_rendered {value other : Json} (edit : UnreadEdit value other) :
    (rendered value).Twin (rendered other) := by
  induction edit with
  | permute distinct permuted =>
    exact twin_rendered_obj_of_lookup_eq fun key _ => Json.lookup_eq_of_perm permuted distinct
  | add before after key value isUnread =>
    apply twin_rendered_obj_of_lookup_eq
    intro read isRead
    have differ : read ≠ key := fun same => isRead (same ▸ isUnread)
    rw [Json.lookup_append_cons_of_ne differ]
  | delete before after key value isUnread =>
    apply twin_rendered_obj_of_lookup_eq
    intro read isRead
    have differ : read ≠ key := fun same => isRead (same ▸ isUnread)
    rw [Json.lookup_append_cons_of_ne differ]
  | replace before after key old new isUnread =>
    apply twin_rendered_obj_of_lookup_eq
    intro read isRead
    have differ : read ≠ key := fun same => isRead (same ▸ isUnread)
    rw [Json.lookup_append_cons_of_ne differ, Json.lookup_append_cons_of_ne differ]
  | inItem before after edit inductionHypothesis => exact twin_rendered_inItem inductionHypothesis
  | inMember before after key edit inductionHypothesis =>
    exact twin_rendered_inMember inductionHypothesis

end Edits

/-- No number of edits of the order of members and of annotations, at whatever depth, changes the
source text of a value. -/
theorem unparse_eq_of_unreadEdits {value other : Json}
    (edits : Relation.ReflTransGen UnreadEdit value other) : unparse value = unparse other := by
  induction edits with
  | refl => rfl
  | tail _ edit inductionHypothesis =>
    exact inductionHypothesis.trans (twin_rendered edit).alike.code_eq

/-- An import of one symbol, with annotations on the import and on the symbol. -/
def annotatedImport : Json :=
  .obj [("src", .str "0:9:0"), ("nodeType", .str "ImportDirective"), ("file", .str "a.sol"),
    ("symbolAliases", .arr [.obj [("nameLocation", .str "8:1:0"),
      ("foreign", .obj [("nodeType", .str "Identifier"), ("name", .str "A")])]])]

/-- The same import without these annotations and with another one, its members in another order. -/
def reorderedImport : Json :=
  .obj [("file", .str "a.sol"), ("nodeType", .str "ImportDirective"), ("id", .bool true),
    ("symbolAliases", .arr [.obj [
      ("foreign", .obj [("nodeType", .str "Identifier"), ("name", .str "A")])]])]

/-- An import with annotations is written like the same import in another order and with other
ones. -/
theorem unparse_eq_of_unreadEdits_import :
    unparse annotatedImport = "import \x7bA\x7d from \"a.sol\";" ∧
      unparse annotatedImport = unparse reorderedImport := by
  refine ⟨by decide, unparse_eq_of_unreadEdits ?_⟩
  apply Relation.ReflTransGen.head
  · exact .inMember [_, _, _] [] _ (.inItem [] [] (.delete [] [_] "nameLocation" _ (by decide)))
  apply Relation.ReflTransGen.head
  · exact .delete [] [_, _, _] "src" _ (by decide)
  apply Relation.ReflTransGen.head
  · exact .permute (by decide) (.swap _ _ _)
  apply Relation.ReflTransGen.single
  exact .add [_, _] [_] "id" _ (by decide)

end SourceTrace.Ast
