import SchemaLineage.Association
import SchemaLineage.Text.Word
import SchemaLineage.Validation.Shape
/-
What a comment in the catalog says about a column, table or type.

A comment is a description with tags anywhere in it: `@name`, `@name:value` or
`@name:"value with blanks"`.  What is not part of a tag is the description.
-/

namespace SchemaLineage

structure Remarks where
  description : Option String := none
  typeOverride : Option String := none
  deprecated : Option String := none
  fixed : Bool := false
  extraTags : List (String × String) := []
  deriving DecidableEq, Repr

namespace Remarks

/-- All tags by name; an extra tag with the name of another one replaces it. -/
def tags (a : Remarks) : List (String × String) :=
  let known :=
    (a.typeOverride.map (("type", ·))).toList ++ (a.deprecated.map (("deprecated", ·))).toList ++
      if a.fixed then [("fixed", "")] else []
  a.extraTags.foldl (fun m t => upsert t.1 t.2 m) known

def isEmpty (a : Remarks) : Bool := a.description.isNone && a.tags.isEmpty

def tagsJson (tags : List (String × String)) : Json := .obj (tags.map fun t => (t.1, .str t.2))

def toJson (a : Remarks) : Json :=
  .obj [("description", Json.text? a.description), ("type_override", Json.text? a.typeOverride),
    ("deprecated", Json.text? a.deprecated), ("fixed", .bool a.fixed),
    ("extra_tags", tagsJson a.extraTags), ("tags", tagsJson a.tags)]

/-- The tags that were computed for display are not read. -/
def ofJson : Shape Remarks :=
  Shape.record "Annotation" fun ms =>
    Remarks.mk
      <$> Shape.withDefault "description" none (Shape.nullable Shape.text) ms
      <*> Shape.withDefault "type_override" none (Shape.nullable Shape.text) ms
      <*> Shape.withDefault "deprecated" none (Shape.nullable Shape.text) ms
      <*> Shape.withDefault "fixed" false Shape.truth ms
      <*> Shape.withDefault "extra_tags" [] (Shape.map Shape.text) ms

theorem map_text_tagsJson (tags : List (String × String)) :
    Shape.map Shape.text (tagsJson tags) = .ok tags := by
  simp only [tagsJson, Shape.map, Checked.ofList_ok_iff, List.map_map]
  exact List.map_congr_left fun t _ => rfl

theorem ofJson_toJson (a : Remarks) : ofJson a.toJson = .ok a := by
  obtain ⟨d, t, p, f, x⟩ := a
  have hx := map_text_tagsJson x
  simp only [ofJson, toJson, Shape.record, Shape.withDefault, List.lookup_cons, Shape.truth,
    Shape.nullable_text, beq_self_eq_true, Checked.under_ok, Checked.map_ok, Checked.seq_ok, hx,
    String.reduceBEq]

/-! ## Tags in a text -/

open Text

structure Tag where
  name : List Char
  /-- A tag written without a value is told apart from one with an empty value. -/
  value : Option (List Char)
  deriving DecidableEq, Repr

def isNameRest (c : Char) : Bool := isWord c || c == '-'

/-- The value after a tag's name and what follows it.  A quote that is not closed is an ordinary
character of a value that ends before the next blank. -/
def splitValue (cs : List Char) : Option (List Char) × List Char :=
  match cs with
  | ':' :: '"' :: r =>
    if r.contains '"' then
      (some (r.takeWhile (· != '"')), (r.dropWhile (· != '"')).drop 1)
    else (some ('"' :: r.takeWhile (!isBlank ·)), r.dropWhile (!isBlank ·))
  | ':' :: c :: r =>
    if isBlank c then (none, cs)
    else (some (c :: r.takeWhile (!isBlank ·)), r.dropWhile (!isBlank ·))
  | _ => (none, cs)

theorem splitValue_length (cs : List Char) : (splitValue cs).2.length ≤ cs.length := by
  have drop (p : Char → Bool) (l : List Char) : (l.dropWhile p).length ≤ l.length :=
    (List.dropWhile_sublist p).length_le
  unfold splitValue
  split
  · rename_i r
    have h1 := drop (· != '"') r
    have h2 := drop (!isBlank ·) r
    split <;> simp only [List.length_cons, List.length_drop] <;> omega
  · rename_i c r _
    have h2 := drop (!isBlank ·) r
    split <;> simp only [List.length_cons] <;> omega
  · exact Nat.le_refl _

/-- The tag whose name starts here, and what follows it. -/
def splitTag? (cs : List Char) : Option (Tag × List Char) :=
  match cs with
  | [] => none
  | c :: r =>
    if isNameStart c then
      let (value, rest) := splitValue (r.dropWhile isNameRest)
      some (⟨c :: r.takeWhile isNameRest, value⟩, rest)
    else none

theorem splitTag?_length {cs rest : List Char} {t : Tag} (h : splitTag? cs = some (t, rest)) :
    rest.length < cs.length := by
  cases cs with
  | nil => simp [splitTag?] at h
  | cons c r =>
    simp only [splitTag?] at h
    split at h
    · have hv := splitValue_length (r.dropWhile isNameRest)
      have hd : (r.dropWhile isNameRest).length ≤ r.length :=
        (List.dropWhile_sublist _).length_le
      simp only [Option.some.injEq, Prod.mk.injEq] at h
      rw [← h.2, List.length_cons]
      omega
    · simp at h

/-- A sign after a word character belongs to an address, and one after another sign to nothing. -/
def blocksTag (c : Char) : Bool := isWord c || c == '@'

/-- Whether a tag cannot follow this one directly. -/
def Tag.blocksTag (t : Tag) : Bool :=
  match t.value with
  | some _ => false
  | none => (t.name.getLast?.map isWord).getD false

inductive Piece where
  | char (c : Char)
  | tag (t : Tag)
  deriving Repr

/-- A comment cut into its tags and the characters between them.  `blocked` says whether the
character before it keeps a tag from starting. -/
def pieces (blocked : Bool) (cs : List Char) : List Piece :=
  match cs with
  | [] => []
  | c :: r =>
    if c = '@' ∧ blocked = false then
      match _h : splitTag? r with
      | some (t, rest) => .tag t :: pieces t.blocksTag rest
      | none => .char c :: pieces true r
    else .char c :: pieces (blocksTag c) r
  termination_by cs.length
  decreasing_by
    · have := splitTag?_length (by assumption)
      simp only [List.length_cons]; omega
    · simp
    · simp

def Piece.char? : Piece → Option Char
  | .char c => some c
  | .tag _ => none

def Piece.tag? : Piece → Option Tag
  | .char _ => none
  | .tag t => some t

/-- Every line with one blank between its words, the blank lines left out. -/
def describe (cs : List Char) : List Char :=
  List.intercalate ['\n'] (((lines cs).map collapse).filter fun l => !l.isEmpty)

def nonempty? (cs : List Char) : Option String :=
  if cs.isEmpty then none else some (String.ofList cs)

/-- Each name with its first value. -/
def firstValues : List (String × String) → List (String × String)
  | [] => []
  | (k, v) :: rest => (k, v) :: (firstValues rest).filter fun t => t.1 != k

/-- Names of tags that have a field of their own. -/
def reservedNames : List String := ["type", "deprecated", "fixed"]

/-- The remarks with a description and tags.  A type without a value says nothing. -/
def ofParts (description : List Char) (tags : List (String × String)) : Remarks :=
  let tags := firstValues tags
  { description := nonempty? description
    typeOverride := (tags.lookup "type").filter fun v => !v.isEmpty
    deprecated := tags.lookup "deprecated"
    fixed := (tags.lookup "fixed").isSome
    extraTags := tags.filter fun t => !reservedNames.contains t.1 }

def Tag.pair (t : Tag) : String × String :=
  (String.ofList t.name, String.ofList (t.value.getD []))

def parse (comment : String) : Remarks :=
  let ps := pieces false comment.toList
  ofParts (describe (ps.filterMap Piece.char?)) ((ps.filterMap Piece.tag?).map Tag.pair)

def ofComment (comment : Option String) : Remarks := (comment.map parse).getD {}

/-- Nothing for a comment that says nothing. -/
def ofComment? (comment : Option String) : Option Remarks :=
  let a := ofComment comment
  if a.isEmpty then none else some a

end Remarks
end SchemaLineage
