import SourceTrace.SourceRange

/-!
# Resolving source map entries

The value of a field in an entry is the one given last at or before it. The search goes back from
the entry, takes each field where it is first met, and stops when all five are known; a value that
is shadowed by a later one is never read.
-/

namespace SourceTrace.SourceMap

/-- Fields found so far. -/
structure Known where
  /-- Start of the source range. -/
  offset : Option Int64 := none
  /-- Length of the source range. -/
  length : Option Int64 := none
  /-- Number of the source file. -/
  fileId : Option Int64 := none
  /-- Kind of jump. -/
  jump : Option Jump := none
  /-- Modifier depth. -/
  modifiers : Option UInt64 := none
  deriving DecidableEq, Repr

/-- Whether all fields were found. -/
def Known.isComplete (known : Known) : Bool :=
  known.offset.isSome && known.length.isSome && known.fileId.isSome && known.jump.isSome &&
    known.modifiers.isSome

/-- A field after one more entry: what is known stays, and what is not given stays unknown. -/
def fill {α : Type} (read? : String → Option α) (index : Nat) (field : Field)
    (known : Option α) (given : Option String) : Except LookupError (Option α) :=
  match known, given with
  | some value, _ => .ok (some value)
  | none, none => .ok none
  | none, some text =>
    if text.isEmpty then .ok none
    else match read? text with
      | some value => .ok (some value)
      | none => .error (.invalidSourceMapEntry index field text)

/-- The fields of a compressed entry; those beyond the fifth have no meaning. -/
def fieldsOf (entry : String) : List String :=
  (entry.toList.splitOn ':').map String.ofList

/-- The known fields after the entry with the given number. Of several bad values the one in the
first field is reported. -/
def Known.absorb (known : Known) (index : Nat) (entry : String) : Except LookupError Known := do
  let fields := fieldsOf entry
  let offset ← fill Text.readSigned? index .offset known.offset fields[0]?
  let length ← fill Text.readSigned? index .length known.length fields[1]?
  let fileId ← fill Text.readSigned? index .fileId known.fileId fields[2]?
  let jump ← fill Jump.ofLetter? index .jump known.jump fields[3]?
  let modifiers ← fill Text.readUnsigned? index .modifiers known.modifiers fields[4]?
  return { offset, length, fileId, jump, modifiers }

/-- The entry made of the known fields; offset, length and file number are mandatory. -/
def Known.finish (known : Known) (index : Nat) : Except LookupError Entry :=
  match known.offset, known.length, known.fileId with
  | none, _, _ => .error (.incompleteSourceMapEntry index .offset)
  | some _, none, _ => .error (.incompleteSourceMapEntry index .length)
  | some _, some _, none => .error (.incompleteSourceMapEntry index .fileId)
  | some offset, some length, some fileId =>
    .ok ⟨offset, length, fileId, known.jump, known.modifiers⟩

/-- Absorbs numbered entries in turn until all fields are known. -/
def Known.scan (known : Known) : List (Nat × String) → Except LookupError Known
  | [] => .ok known
  | (index, entry) :: rest =>
    if entry.isEmpty then known.scan rest
    else match known.absorb index entry with
      | .error error => .error error
      | .ok next => if next.isComplete then .ok next else next.scan rest

/-- The entries up to and with a number, the last one first, each with its number. -/
def entriesBackFrom (map : SourceMap) (index : Nat) : List (Nat × String) :=
  ((map.entries.take (index + 1)).zipIdx.map fun (entry, number) => (number, entry)).reverse

/-- The entry of an instruction. -/
def resolve (map : SourceMap) (index : Nat) : Except LookupError Entry :=
  if map.size ≤ index then .error (.sourceMapIndexOutOfRange index map.size)
  else match Known.scan {} (map.entriesBackFrom index) with
    | .error error => .error error
    | .ok known => known.finish index

/-- A number of bytes that must not be negative. -/
def Entry.unsigned (index : Nat) (field : Field) (value : Int64) : Except LookupError UInt64 :=
  if value < 0 then .error (.invalidSourceMapEntry index field (Text.signedDecimal value.toInt))
  else .ok value.toUInt64

/-- The source range of the entry of an instruction; code that the compiler made up has none. -/
def Entry.range (entry : Entry) (index : Nat) : Except LookupError (Option SourceRange) :=
  if entry.isGenerated then .ok none
  else
    match Entry.unsigned index .offset entry.offset,
      Entry.unsigned index .length entry.length with
    | .error error, _ => .error error
    | .ok _, .error error => .error error
    | .ok offset, .ok length => .ok (some ⟨offset, length, entry.fileId⟩)

end SourceTrace.SourceMap
