import SourceTrace.Proofs.Ast.Attributes
import SourceTrace.Proofs.Ast.Readings
import SourceTrace.Proofs.Json.Nulls
import SourceTrace.Proofs.Text.Joining

/-!
# Attributes that are `null`

An attribute that is `null` counts as missing, so a member that is `null` can be dropped without a
change to the source text. This fails in two places, where records are read without regard to
`null`: an imported symbol whose `foreign` name is `null` is written, and one whose name is missing
is not; and a `null` in place of a `function` in a `using` list hides the `definition` beside it.
`Node.ReadsNull` names these places, and `unparse_nullsDropped_iff` says that there are no others.
-/

namespace SourceTrace.Ast

open Json (Holds MembersDropped NullsDropped)
open Render (unread importedSymbols usedFunctions importedSymbol? usedFunction)

namespace Node

/-- The items of the array under a key; no items if there is none. -/
def itemsAt (node : Node) (key : String) : List Json :=
  ((node.attribute? key).bind Json.items?).getD []

/-- A node writes one of its records by a member that is `null` and would write it differently if
that were missing. -/
inductive ReadsNull (node : Node) : Prop where
  /-- An import writes a symbol for a `foreign` name that is `null`. -/
  | symbol (kind : node.kind? = some .importDirective) (unnamed : node.text "unitAlias" = "")
      {symbol : Json} (mem : symbol ∈ node.itemsAt "symbolAliases")
      (null : symbol.get? "foreign" = some .null)
  /-- A `using` list passes over a definition beside a `function` that is `null`. -/
  | function (kind : node.kind? = some .usingForDirective)
      (listed : node.child? "libraryName" = none)
      {entry definition : Json} (mem : entry ∈ node.itemsAt "functionList")
      (null : entry.get? "function" = some .null)
      (hidden : entry.get? "definition" = some definition)
      (written : Ast.unparse definition ≠ "")

end Node

section Unchanged

/-- Lists of related items give the same readings. -/
theorem map_eq_of_forall₂ {α β : Type} {Related : α → α → Prop} {items others : List α}
    (pairs : List.Forall₂ Related items others) (reading : α → β)
    (same : ∀ item ∈ items, ∀ other, Related item other → reading item = reading other) :
    items.map reading = others.map reading := by
  induction pairs with
  | nil => rfl
  | cons related _ inductionHypothesis =>
    rw [List.map_cons, List.map_cons, same _ List.mem_cons_self _ related,
      inductionHypothesis fun item mem => same item (List.mem_cons_of_mem _ mem)]

/-- All that is left of a value when nulls are dropped is rendered alike. -/
def KeepsRendering (value : Json) : Prop :=
  ∀ other, value.NullsDropped other → (rendered value).Alike (rendered other)

/-- A value that keeps its rendering keeps its source text when nulls are dropped. -/
theorem KeepsRendering.unparse_eq {value other : Json} (keeps : KeepsRendering value)
    (dropped : value.NullsDropped other) : unparse value = unparse other :=
  (keeps other dropped).code_eq

/-- An array keeps its rendering if its items do. -/
theorem keepsRendering_arr {items : List Json} (keeps : ∀ item ∈ items, KeepsRendering item) :
    KeepsRendering (.arr items) := by
  intro other dropped
  cases dropped with
  | refl => exact .refl _
  | @arr _ others pairs =>
    have faces :
        (items.map rendered).map Rendered.face = (others.map rendered).map Rendered.face := by
      rw [List.map_map, List.map_map]
      exact map_eq_of_forall₂ pairs _ fun item mem other related =>
        (keeps item mem other related).face_eq
    simp only [rendered, renderedItems_eq_map, Rendered.map_code_eq, faces]
    exact .list faces

section Records

/-- A record has the members of its object, rendered. -/
theorem member?_rendered (value : Json) (key : String) :
    (rendered value).member? key = (value.get? key).map rendered := by
  cases value with
  | obj members => exact lookup_renderedMembers members key
  | _ => rfl

/-- The text of a rendered record under a key is the text of the record. -/
theorem member?_rendered_text? (value : Json) (key : String) :
    ((rendered value).member? key).bind Rendered.text? = (value.get? key).bind Json.text? := by
  rw [member?_rendered]
  cases value.get? key with
  | none => rfl
  | some found => exact text?_rendered found

/-- A symbol is written just if it has a name, even one that is `null`. -/
theorem isSome_importedSymbol?_rendered (symbol : Json) :
    (importedSymbol? (rendered symbol)).isSome = (symbol.get? "foreign").isSome := by
  rw [importedSymbol?, Option.isSome_map, member?_rendered _ "foreign", Option.isSome_map]

variable {item other : Json}

/-- A symbol is written the same unless its name was `null`. -/
theorem importedSymbol?_eq_of_dropped (keeps : ∀ inner, item.Holds inner → KeepsRendering inner)
    (dropped : item.NullsDropped other) (distinct : item.hasDistinctKeys = true)
    (named : item.get? "foreign" ≠ some .null) :
    importedSymbol? (rendered item) = importedSymbol? (rendered other) := by
  simp only [importedSymbol?, member?_rendered_text?, dropped.get?_text?_eq distinct "local",
    member?_rendered _ "foreign"]
  obtain ⟨foreign, kept, present, otherPresent, related⟩ | ⟨missing, null⟩ :=
    dropped.get?_cases distinct "foreign"
  · have code := (keeps foreign (Json.holds_of_get? present) kept related).code_eq
    simp only [present, otherPresent, Option.map_some, code]
  · cases present : item.get? "foreign" with
    | none => rw [missing]
    | some foreign => exact absurd (null foreign present ▸ present) named

/-- The text of the function that a record of a `using` list names. -/
def functionText (entry : Json) : String :=
  (((entry.get? "function").orElse fun _ => entry.get? "definition").map unparse).getD ""

/-- A function of a using list is its text, with the operator behind it. -/
theorem usedFunction_rendered (entry : Json) :
    usedFunction (rendered entry) =
      match (entry.get? "operator").bind Json.text? with
      | some operator => functionText entry ++ " as " ++ operator
      | none => functionText entry := by
  have text : ((((rendered entry).member? "function").orElse fun _ =>
      (rendered entry).member? "definition").map Rendered.code).getD "" = functionText entry := by
    rw [member?_rendered, member?_rendered, functionText]
    cases entry.get? "function" with
    | some function => rfl
    | none => cases entry.get? "definition" <;> rfl
  have same := member?_rendered_text? entry "operator"
  cases operator : (entry.get? "operator").bind Json.text? with
  | none => simp only [usedFunction, same, operator, text]
  | some name => simp only [usedFunction, same, operator, text]

/-- A function is written the same unless a `null` hid the definition beside it. -/
theorem functionText_eq_of_dropped (keeps : ∀ inner, item.Holds inner → KeepsRendering inner)
    (dropped : item.NullsDropped other) (distinct : item.hasDistinctKeys = true)
    (shown : item.get? "function" = some .null →
      ∀ definition, item.get? "definition" = some definition → unparse definition = "") :
    functionText item = functionText other := by
  have definition : ((item.get? "definition").map unparse).getD "" =
      ((other.get? "definition").map unparse).getD "" := by
    obtain ⟨definition, kept, present, otherPresent, related⟩ | ⟨missing, null⟩ :=
      dropped.get?_cases distinct "definition"
    · have code := (keeps definition (Json.holds_of_get? present)).unparse_eq related
      simp only [present, otherPresent, Option.map_some, code]
    · rw [missing]
      cases present : item.get? "definition" with
      | none => rfl
      | some definition =>
        rw [null definition present]
        rfl
  obtain ⟨function, kept, present, otherPresent, related⟩ | ⟨missing, null⟩ :=
    dropped.get?_cases distinct "function"
  · have code := (keeps function (Json.holds_of_get? present)).unparse_eq related
    simp only [functionText, present, otherPresent, Option.orElse_some, Option.map_some, code]
  · cases present : item.get? "function" with
    | none => simpa only [functionText, missing, present, Option.orElse_none] using definition
    | some function =>
      obtain rfl := null function present
      have silent : ((item.get? "definition").map unparse).getD "" = "" := by
        cases hidden : item.get? "definition" with
        | none => rfl
        | some definition => exact shown present definition hidden
      rw [silent] at definition
      rw [functionText, functionText, present, missing]
      exact definition

end Records

section Nodes

variable {node other : Node}

/-- Dropping nulls changes an attribute at most by dropping nulls in it. -/
theorem Node.attribute?_of_dropped (dropped : node.toJson.NullsDropped other.toJson)
    (distinct : node.toJson.hasDistinctKeys = true) (key : String) :
    Option.Rel NullsDropped (node.attribute? key) (other.attribute? key) := by
  have member? (node : Node) : node.member? key = node.toJson.get? key := rfl
  rw [Node.attribute?, Node.attribute?, member?, member?]
  obtain ⟨value, kept, present, otherPresent, related⟩ | ⟨missing, null⟩ :=
    dropped.get?_cases distinct key
  · rw [present, otherPresent, Option.filter_some, Option.filter_some, related.isNull_eq]
    split
    · exact .some related
    · exact .none
  · rw [missing]
    cases found : node.toJson.get? key with
    | none => exact .none
    | some value =>
      rw [null value found]
      exact .none

/-- A node holds its attributes. -/
theorem Node.holds_of_attribute? {key : String} {value : Json}
    (present : node.attribute? key = some value) : node.toJson.Holds value :=
  Json.holds_of_get? (Option.filter_eq_some_iff.mp present).1

/-- Attributes are alike after nulls were dropped, if all that the node holds keeps its
rendering. -/
theorem Node.alike_of_dropped (keeps : ∀ inner, node.toJson.Holds inner → KeepsRendering inner)
    (dropped : node.toJson.NullsDropped other.toJson)
    (distinct : node.toJson.hasDistinctKeys = true) : node.rendered.Alike other.rendered where
  kind? := by
    rw [Node.kind?_rendered, Node.kind?_rendered]
    exact congrArg (Option.map Kind.ofTag) (dropped.get?_text?_eq distinct "nodeType")
  value? key _ := by
    rw [Node.value?_rendered, Node.value?_rendered]
    obtain ⟨missing, otherMissing⟩ | ⟨value, kept, present, otherPresent, related⟩ :=
      rel_cases (Node.attribute?_of_dropped dropped distinct key)
    · rw [missing, otherMissing]
      exact .none
    · rw [present, otherPresent]
      exact .some (keeps value (Node.holds_of_attribute? present) kept related)

/-- The rules see the items of a node, rendered. -/
theorem Node.items_rendered_eq (node : Node) (key : String) :
    node.rendered.items key = (node.itemsAt key).map Ast.rendered := by
  rw [Attributes.items, Node.value?_rendered, Node.itemsAt]
  cases node.attribute? key with
  | none => rfl
  | some value =>
    cases value with
    | arr items => exact renderedItems_eq_map items
    | _ => rfl

/-- The items of an array lose nothing but nulls of their own. -/
theorem Node.forall₂_itemsAt (dropped : node.toJson.NullsDropped other.toJson)
    (distinct : node.toJson.hasDistinctKeys = true) (key : String) :
    List.Forall₂ NullsDropped (node.itemsAt key) (other.itemsAt key) := by
  rw [Node.itemsAt, Node.itemsAt]
  obtain ⟨missing, otherMissing⟩ | ⟨value, kept, present, otherPresent, related⟩ :=
    rel_cases (Node.attribute?_of_dropped dropped distinct key)
  · rw [missing, otherMissing]
    exact .nil
  · rw [present, otherPresent]
    cases related with
    | refl => exact List.forall₂_same.mpr fun item _ => .refl item
    | arr pairs => exact pairs
    | obj _ => exact .nil

/-- Where a node has an item, the attribute is the array of its items. -/
theorem Node.attribute?_of_mem_itemsAt {key : String} {item : Json}
    (mem : item ∈ node.itemsAt key) :
    node.attribute? key = some (.arr (node.itemsAt key)) := by
  rw [Node.itemsAt] at mem ⊢
  cases present : node.attribute? key with
  | none =>
    rw [present] at mem
    cases mem
  | some value =>
    rw [present] at mem
    cases value with
    | arr items => rfl
    | _ => cases mem

/-- A node holds its items, through the array. -/
theorem Node.transGen_holds_of_mem_itemsAt {key : String} {item : Json}
    (mem : item ∈ node.itemsAt key) : Relation.TransGen Holds node.toJson item :=
  .tail (.single (Node.holds_of_attribute? (Node.attribute?_of_mem_itemsAt mem))) (.item mem)

/-- Items of a node with distinct keys have distinct keys. -/
theorem Node.hasDistinctKeys_of_mem_itemsAt {key : String} {item : Json}
    (distinct : node.toJson.hasDistinctKeys = true) (mem : item ∈ node.itemsAt key) :
    item.hasDistinctKeys = true :=
  Json.HasPart.hasDistinctKeys (Node.transGen_holds_of_mem_itemsAt mem).to_reflTransGen distinct

/-- Records are written the same if none is written by a `null`. -/
theorem Node.sameRecords_of_dropped
    (keeps : ∀ inner, Relation.TransGen Holds node.toJson inner → KeepsRendering inner)
    (dropped : node.toJson.NullsDropped other.toJson)
    (distinct : node.toJson.hasDistinctKeys = true) (passes : ¬ node.ReadsNull) :
    node.rendered.SameRecords other.rendered where
  symbols kind unnamed := by
    rw [Node.kind?_rendered] at kind
    rw [Node.text_rendered] at unnamed
    have same :
        (node.itemsAt "symbolAliases").map (fun item => importedSymbol? (Ast.rendered item)) =
        (other.itemsAt "symbolAliases").map fun item => importedSymbol? (Ast.rendered item) := by
      refine map_eq_of_forall₂ (Node.forall₂_itemsAt dropped distinct _) _ ?_
      intro symbol mem kept related
      have within := Node.transGen_holds_of_mem_itemsAt mem
      exact importedSymbol?_eq_of_dropped
        (fun inner holds => keeps inner (within.tail holds)) related
        (Node.hasDistinctKeys_of_mem_itemsAt distinct mem)
        fun null => passes (.symbol kind unnamed mem null)
    rw [importedSymbols, importedSymbols, Node.items_rendered_eq, Node.items_rendered_eq,
      List.filterMap_map, List.filterMap_map]
    simpa only [List.filterMap_map, Function.comp_def, id] using congrArg (List.filterMap id) same
  functions kind listed := by
    rw [Node.kind?_rendered] at kind
    rw [Node.childCode?_rendered, Option.map_eq_none_iff] at listed
    rw [usedFunctions, usedFunctions, Node.items_rendered_eq, Node.items_rendered_eq, List.map_map,
      List.map_map]
    refine map_eq_of_forall₂ (Node.forall₂_itemsAt dropped distinct _) _ ?_
    intro entry mem kept related
    have within := Node.transGen_holds_of_mem_itemsAt mem
    have entryDistinct := Node.hasDistinctKeys_of_mem_itemsAt distinct mem
    have text : functionText entry = functionText kept := by
      refine functionText_eq_of_dropped (fun inner holds => keeps inner (within.tail holds)) related
        entryDistinct ?_
      intro null definition hidden
      by_contra written
      exact passes (.function kind listed mem null hidden written)
    simp only [Function.comp_apply, usedFunction_rendered, text,
      related.get?_text?_eq entryDistinct "operator"]

end Nodes

/-- Where no node of a value writes a record by a `null`, dropping nulls changes nothing. -/
theorem keepsRendering_of_passes (value : Json) (distinct : value.hasDistinctKeys = true)
    (passes : ∀ node : Node, value.HasPart node.toJson → ¬ node.ReadsNull) :
    KeepsRendering value := by
  induction value using Json.induction_parts with
  | step value inductionHypothesis =>
    -- A node writes what its records hold, two levels below it, so the hypothesis is needed at any
    -- depth.
    have keeps : ∀ inner, Relation.TransGen Holds value inner → KeepsRendering inner := by
      intro inner within
      have part := within.to_reflTransGen
      exact inductionHypothesis inner within (Json.HasPart.hasDistinctKeys part distinct)
        fun node isPart => passes node (part.trans isPart)
    cases value with
    | arr items => exact keepsRendering_arr fun item mem => keeps item (.single (.item mem))
    | obj members =>
      intro other dropped
      cases dropped with
      | refl => exact .refl _
      | @obj _ others kept =>
        have dropped : (Node.mk members).toJson.NullsDropped (Node.mk others).toJson := .obj kept
        have alike := Node.alike_of_dropped (fun inner holds => keeps inner (.single holds)) dropped
          distinct
        have records := Node.sameRecords_of_dropped keeps dropped distinct
          (passes ⟨members⟩ .refl)
        have code :
            Render.codeOf ⟨renderedMembers members⟩ =
              Render.codeOf ⟨renderedMembers others⟩ :=
          Render.codeOf_eq_of_alike alike records
        simp only [rendered, code]
        exact .node fun key read => alike.code read
    | _ =>
      intro other dropped
      cases dropped
      exact .refl _

end Unchanged

section Changed

section Texts

variable {first second : Attributes}

/-- The text of an import that does not name the whole file. -/
theorem importDirective_of_unnamed {node : Attributes} (unnamed : node.text "unitAlias" = "") :
    Render.importDirective node =
      "import " ++
        (if importedSymbols node = [] then ""
          else Text.braces (Text.commas (importedSymbols node)) ++ " from ") ++
        Text.doubleQuotes
          (if (node.text "file").isEmpty then node.text "absolutePath" else node.text "file") ++
            ";" := by
  have listed : (node.items "symbolAliases").filterMap importedSymbol? = importedSymbols node := rfl
  simp only [Render.importDirective, unnamed, listed]
  cases importedSymbols node with
  | nil => simp
  | cons symbol rest => simp [String.append_assoc]

/-- The text of an import says whether it names symbols, and which in a row. -/
theorem commas_importedSymbols_eq (file : first.text "file" = second.text "file")
    (path : first.text "absolutePath" = second.text "absolutePath")
    (unnamed : first.text "unitAlias" = "") (otherUnnamed : second.text "unitAlias" = "")
    (same : Render.importDirective first = Render.importDirective second)
    (named : importedSymbols first ≠ []) :
    importedSymbols second ≠ [] ∧
      Text.commas (importedSymbols first) = Text.commas (importedSymbols second) := by
  rw [importDirective_of_unnamed unnamed, importDirective_of_unnamed otherUnnamed, file, path,
    if_neg named, String.append_left_inj, String.append_left_inj, String.append_right_inj] at same
  split at same
  · simp at same
  · rename_i otherNamed
    exact ⟨otherNamed, by simpa [Text.braces] using same⟩

/-- The text of a `using` list says which functions it names in a row. -/
theorem commas_usedFunctions_eq
    (target : first.childCode? "typeName" = second.childCode? "typeName")
    (isGlobal : first.isSet "global" = second.isSet "global")
    (listed : first.childCode? "libraryName" = none)
    (otherListed : second.childCode? "libraryName" = none)
    (same : Render.usingForDirective first = Render.usingForDirective second) :
    Text.commas (usedFunctions first) = Text.commas (usedFunctions second) := by
  simp only [Render.usingForDirective, target, isGlobal, listed, otherListed, Option.getD_none,
    Text.braces] at same
  simpa [usedFunctions] using same

end Texts

variable {node : Node}

/-- Nulls can be dropped from a single item of an array under a key. -/
theorem Node.exists_itemsAt_replaced {key : String} {item lesser : Json}
    (mem : item ∈ node.itemsAt key) (dropped : item.NullsDropped lesser) :
    ∃ (other : Node) (before after : List Json), node.toJson.NullsDropped other.toJson ∧
      node.itemsAt key = before ++ item :: after ∧
      other.itemsAt key = before ++ lesser :: after ∧
      ∀ read, read ≠ key → other.member? read = node.member? read := by
  obtain ⟨before, after, items⟩ := List.append_of_mem mem
  have present := Node.attribute?_of_mem_itemsAt mem
  rw [items] at present
  obtain ⟨others, kept, replaced, unchanged⟩ := Json.exists_lookup_replaced
    (Option.filter_eq_some_iff.mp present).1 (dropped.inItem before after)
  refine ⟨⟨others⟩, before, after, .obj kept, items, ?_, unchanged⟩
  rw [Node.itemsAt, Node.attribute?, Node.member?, replaced]
  rfl

/-- The kind of a node depends on its tag alone. -/
theorem Node.kind?_congr {other : Node}
    (same : other.member? "nodeType" = node.member? "nodeType") :
    other.kind? = node.kind? := by
  rw [Node.kind?, Node.kind?, Node.tag?, Node.tag?, same]

/-- What the rules see under a key depends on the member under it alone. -/
theorem Node.value?_rendered_congr {other : Node} {key : String}
    (same : other.member? key = node.member? key) :
    other.rendered.value? key = node.rendered.value? key := by
  rw [Node.value?_rendered, Node.value?_rendered, Node.attribute?, Node.attribute?, same]

/-- The symbols of an import, with those for one item in the middle. -/
theorem Node.importedSymbols_rendered {before after : List Json} {item : Json}
    (items : node.itemsAt "symbolAliases" = before ++ item :: after) :
    importedSymbols node.rendered =
      (before.map Ast.rendered).filterMap importedSymbol? ++
        ((importedSymbol? (Ast.rendered item)).toList ++
          (after.map Ast.rendered).filterMap importedSymbol?) := by
  rw [importedSymbols, Node.items_rendered_eq, items, List.map_append, List.map_cons,
    List.filterMap_append, List.filterMap_cons]
  cases importedSymbol? (Ast.rendered item) <;> rfl

/-- An import that names a symbol by a `null` does not name it without. -/
theorem Node.exists_unparse_ne_of_symbol (distinct : node.toJson.hasDistinctKeys = true)
    (kind : node.kind? = some .importDirective) (unnamed : node.text "unitAlias" = "")
    {symbol : Json} (mem : symbol ∈ node.itemsAt "symbolAliases")
    (null : symbol.get? "foreign" = some .null) :
    ∃ other, node.toJson.NullsDropped other ∧
      Ast.unparse other ≠ Ast.unparse node.toJson := by
  obtain ⟨lesser, symbolDropped, missing, -⟩ :=
    Json.exists_get?_dropped null (Node.hasDistinctKeys_of_mem_itemsAt distinct mem)
  obtain ⟨other, before, after, dropped, items, otherItems, unchanged⟩ :=
    Node.exists_itemsAt_replaced mem symbolDropped
  refine ⟨other.toJson, dropped, fun same => ?_⟩
  have otherKind := (Node.kind?_congr (unchanged "nodeType" (by decide))).trans kind
  have text (key : String) (differ : key ≠ "symbolAliases") :
      node.rendered.text key = other.rendered.text key := by
    rw [Attributes.text, Attributes.text, Node.value?_rendered_congr (unchanged key differ)]
  obtain ⟨name, written⟩ := Option.isSome_iff_exists.mp
    ((isSome_importedSymbol?_rendered symbol).trans (congrArg Option.isSome null))
  have unwritten := Option.isNone_iff_eq_none.mp (Option.isSome_eq_false_iff.mp
    ((isSome_importedSymbol?_rendered lesser).trans (congrArg Option.isSome missing)))
  have symbols := Node.importedSymbols_rendered items
  have otherSymbols := Node.importedSymbols_rendered otherItems
  rw [written] at symbols
  rw [unwritten] at otherSymbols
  have texts : Render.importDirective node.rendered = Render.importDirective other.rendered :=
    (Node.unparse_of_kind? kind).symm.trans (same.symm.trans (Node.unparse_of_kind? otherKind))
  rw [← Node.text_rendered] at unnamed
  obtain ⟨named, joined⟩ := commas_importedSymbols_eq (text "file" (by decide))
    (text "absolutePath" (by decide)) unnamed
      ((text "unitAlias" (by decide)).symm.trans unnamed) texts
    (by simp [symbols])
  rw [symbols, otherSymbols] at joined
  rw [otherSymbols] at named
  exact Text.intercalate_ne_of_fewer (by decide) name named joined

/-- A `using` list that passes over a definition for a `null` names it without the `null`. -/
theorem Node.exists_unparse_ne_of_function (distinct : node.toJson.hasDistinctKeys = true)
    (kind : node.kind? = some .usingForDirective) (listed : node.child? "libraryName" = none)
    {entry definition : Json} (mem : entry ∈ node.itemsAt "functionList")
    (null : entry.get? "function" = some .null) (hidden : entry.get? "definition" = some definition)
    (written : Ast.unparse definition ≠ "") :
    ∃ other, node.toJson.NullsDropped other ∧
      Ast.unparse other ≠ Ast.unparse node.toJson := by
  obtain ⟨lesser, entryDropped, missing, others⟩ :=
    Json.exists_get?_dropped null (Node.hasDistinctKeys_of_mem_itemsAt distinct mem)
  obtain ⟨other, before, after, dropped, items, otherItems, unchanged⟩ :=
    Node.exists_itemsAt_replaced mem entryDropped
  refine ⟨other.toJson, dropped, fun same => ?_⟩
  have otherKind := (Node.kind?_congr (unchanged "nodeType" (by decide))).trans kind
  have value? (key : String) (differ : key ≠ "functionList") :
      node.rendered.value? key = other.rendered.value? key :=
    (Node.value?_rendered_congr (unchanged key differ)).symm
  have childCode? (key : String) (differ : key ≠ "functionList") :
      node.rendered.childCode? key = other.rendered.childCode? key := by
    rw [Attributes.childCode?, Attributes.childCode?, value? key differ]
  have isGlobal : node.rendered.isSet "global" = other.rendered.isSet "global" := by
    rw [Attributes.isSet, Attributes.isSet, Attributes.flag?, Attributes.flag?,
      value? "global" (by decide)]
  have unlisted : node.rendered.childCode? "libraryName" = none := by
    rw [Node.childCode?_rendered, listed]
    rfl
  have texts : Render.usingForDirective node.rendered = Render.usingForDirective other.rendered :=
    (Node.unparse_of_kind? kind).symm.trans (same.symm.trans (Node.unparse_of_kind? otherKind))
  have joined := commas_usedFunctions_eq (childCode? "typeName" (by decide)) isGlobal unlisted
    ((childCode? "libraryName" (by decide)).symm.trans unlisted) texts
  simp only [usedFunctions, Node.items_rendered_eq, items, otherItems, List.map_append,
    List.map_cons, Text.commas, Text.intercalate_middle_inj, usedFunction_rendered,
    others "operator" (by decide)] at joined
  have silent : functionText entry = "" := by
    rw [functionText, null]
    rfl
  have shown : functionText lesser = Ast.unparse definition := by
    rw [functionText, missing, others "definition" (by decide), hidden]
    rfl
  rw [silent, shown] at joined
  apply written
  cases operator : (entry.get? "operator").bind Json.text? with
  | none => simpa only [operator] using joined.symm
  | some name => simpa only [operator, String.append_left_inj] using joined.symm

/-- A node that writes a record by a `null` is written differently without it. -/
theorem Node.ReadsNull.exists_unparse_ne (reads : node.ReadsNull)
    (distinct : node.toJson.hasDistinctKeys = true) :
    ∃ other, node.toJson.NullsDropped other ∧
      Ast.unparse other ≠ Ast.unparse node.toJson := by
  cases reads with
  | symbol kind unnamed mem null =>
    exact Node.exists_unparse_ne_of_symbol distinct kind unnamed mem null
  | function kind listed mem null hidden written =>
    exact Node.exists_unparse_ne_of_function distinct kind listed mem null hidden written

end Changed

/-- Dropping nulls keeps the source text of every part of a value just if no node in it writes a
record by a `null`. -/
theorem unparse_nullsDropped_iff (value : Json) (distinct : value.hasDistinctKeys = true) :
    (∀ part, value.HasPart part → ∀ other, part.NullsDropped other →
      unparse other = unparse part) ↔
      ∀ node : Node, value.HasPart node.toJson → ¬ node.ReadsNull := by
  constructor
  · intro keeps node isPart reads
    obtain ⟨other, dropped, differ⟩ := reads.exists_unparse_ne (isPart.hasDistinctKeys distinct)
    exact differ (keeps node.toJson isPart other dropped)
  · intro passes part isPart other dropped
    have keeps := keepsRendering_of_passes part (isPart.hasDistinctKeys distinct)
      fun node within => passes node (isPart.trans within)
    exact (keeps.unparse_eq dropped).symm

/-- An import of a whole file, whose name is `null`. -/
def wholeImport : Node :=
  ⟨[("nodeType", .str "ImportDirective"), ("file", .str "a.sol"), ("unitAlias", .null)]⟩

/-- An import of a whole file is written the same, whatever nulls are dropped from it. -/
theorem unparse_nullsDropped_iff_whole_import :
    wholeImport.toJson.hasDistinctKeys = true ∧
      ∀ other, wholeImport.toJson.NullsDropped other → unparse other = "import \"a.sol\";" := by
  refine ⟨by decide, (unparse_nullsDropped_iff wholeImport.toJson (by decide)).mpr ?_ _ .refl⟩
  intro node isPart reads
  obtain same | ⟨inner, holds, within⟩ := isPart.cases_head
  · obtain rfl : wholeImport = node := congrArg (fun value => Node.mk value.members) same
    cases reads with
    | symbol kind unnamed mem null =>
      have none : wholeImport.itemsAt "symbolAliases" = [] := rfl
      rw [none] at mem
      cases mem
    | function kind listed mem null hidden written => cases kind
  · -- The values of the members are no nodes and hold nothing.
    cases holds with
    | member mem =>
      simp only [wholeImport, List.mem_cons, Prod.mk.injEq, List.not_mem_nil, or_false] at mem
      obtain ⟨rfl, rfl⟩ | ⟨rfl, rfl⟩ | ⟨rfl, rfl⟩ := mem
      all_goals
        obtain same | ⟨deeper, holdsDeeper, -⟩ := within.cases_head
        · cases same
        · cases holdsDeeper

/-- An import of a symbol whose name is `null`. -/
def nullSymbolImport : Json :=
  .obj [("nodeType", .str "ImportDirective"), ("file", .str "a.sol"),
    ("symbolAliases", .arr [.obj [("foreign", .null)]])]

/-- Dropping the `null` changes the text of the import. -/
theorem unparse_ne_of_nullSymbol :
    ∃ other, nullSymbolImport.NullsDropped other ∧
      unparse nullSymbolImport = "import \x7b\x7d from \"a.sol\";" ∧
      unparse other = "import \"a.sol\";" := by
  refine ⟨.obj [("nodeType", .str "ImportDirective"), ("file", .str "a.sol"),
    ("symbolAliases", .arr [.obj []])], ?_, by decide, by decide⟩
  exact .obj (.keep (.refl _) (.keep (.refl _)
    (.keep (.arr (.cons (.obj (.drop .nil)) .nil)) .nil)))

end SourceTrace.Ast
