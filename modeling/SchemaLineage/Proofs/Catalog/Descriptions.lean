import SchemaLineage.Catalog.Engine
import SchemaLineage.Proofs.Outcome
import SchemaLineage.Schema.Format
/-
What a driver describes, and the rows that are made of it.

A description is an object.  Some members must be there and some may be missing, and those that are
used as texts or lists of texts must be such.  Of a description that keeps to this (`OfColumn` and
the like say to what) a row is made, and it says the same (`Renders`).
-/

namespace SchemaLineage

/-! ## Rows that are written and read back -/

theorem ColumnRow.ofJson_toJson (r : ColumnRow) : ofJson r.toJson = .ok r := by
  obtain ⟨n, p, t, nn, d, c⟩ := r
  simp only [ofJson, toJson, Shape.record, Shape.required, Shape.withDefault, List.lookup_cons,
    Shape.text, Shape.truth, Shape.integer, Shape.nullable_text, beq_self_eq_true,
    Checked.under_ok, Checked.map_ok, Checked.seq_ok, String.reduceBEq]

theorem ConstraintKind.lookup_word (k : ConstraintKind) : words.lookup k.word = some k := by
  cases k <;> rfl

theorem ConstraintRow.ofJson_toJson (r : ConstraintRow) : ofJson r.toJson = .ok r := by
  obtain ⟨n, k, cs, s, t, rs, d, u⟩ := r
  simp only [ofJson, toJson, Shape.record, Shape.required, Shape.withDefault, List.lookup_cons,
    Shape.list_text, Shape.nullable_text, Shape.choice_word (ConstraintKind.lookup_word _),
    beq_self_eq_true, Checked.under_ok, Checked.map_ok, Checked.seq_ok, String.reduceBEq]

/-- Of a key that refers to nothing three members are enough. -/
theorem ConstraintRow.ofJson_short (n : Option String) (k : ConstraintKind) (cs : List String) :
    ofJson (.obj [("name", Json.text? n), ("kind", .str k.word),
      ("columns", .arr (cs.map .str))]) = .ok { name := n, kind := k, columns := cs } := by
  simp only [ofJson, Shape.record, Shape.required, Shape.withDefault, List.lookup_cons,
    List.lookup_nil, Shape.list_text, Shape.nullable_text,
    Shape.choice_word (ConstraintKind.lookup_word _), beq_self_eq_true, Checked.under_ok,
    Checked.map_ok, Checked.seq_ok, String.reduceBEq]

theorem TypeRow.ofJson_labelled (n s : String) (k : TypeKind) (ls : List String)
    (c : Option String) :
    ofJson (.obj [("name", .str n), ("schema_name", .str s), ("kind", .str k.word),
      ("labels", .arr (ls.map .str)), ("comment", Json.text? c)]) =
      .ok { name := n, schemaName := s, kind := k, labels := ls, comment := c } := by
  simp only [ofJson, Shape.record, Shape.required, Shape.withDefault, List.lookup_cons,
    List.lookup_nil, Shape.text, Shape.list_text, Shape.nullable_text,
    Shape.choice_word (TypeKind.lookup_word _), beq_self_eq_true, Checked.under_ok,
    Checked.map_ok, Checked.seq_ok, String.reduceBEq]

theorem TypeRow.ofJson_based (n s : String) (k : TypeKind) (b c : Option String) :
    ofJson (.obj [("name", .str n), ("schema_name", .str s), ("kind", .str k.word),
      ("base_type", Json.text? b), ("comment", Json.text? c)]) =
      .ok { name := n, schemaName := s, kind := k, baseType := b, comment := c } := by
  simp only [ofJson, Shape.record, Shape.required, Shape.withDefault, List.lookup_cons,
    List.lookup_nil, Shape.text, Shape.nullable_text,
    Shape.choice_word (TypeKind.lookup_word _), beq_self_eq_true, Checked.under_ok,
    Checked.map_ok, Checked.seq_ok, String.reduceBEq]

/-! ## Values of members -/

namespace Json

/-- The text of a value that may be of any kind; `null` has none. -/
def shown? : Json → Option String
  | .null => none
  | v => some v.plainText

/-- A list of texts, or nothing instead of an empty one. -/
def IsTexts (v : Json) (ss : List String) : Prop := v = .null ∧ ss = [] ∨ v = .arr (ss.map .str)

end Json

/-- A text unless it is missing or empty. -/
def presentOr (s : Option String) (other : String) : String := (s.filter (· ≠ "")).getD other

namespace Engine

open Json (text?)

theorem orElse_text (s : Option String) (other : String) :
    orElse (text? s) (.str other) = .str (presentOr s other) := by
  cases s with
  | none => rfl
  | some s =>
    by_cases h : s = ""
    · subst h
      rfl
    · have htruthy : (text? (some s)).isTruthy = true := by
        show (!s.isEmpty) = true
        simpa using h
      have hkept : (some s).filter (· ≠ "") = some s := by simp [h]
      rw [orElse, if_pos htruthy, presentOr, hkept]
      rfl

theorem orElse_texts {v : Json} {ss : List String} (h : v.IsTexts ss) :
    orElse v (.arr []) = .arr (ss.map .str) := by
  rcases h with ⟨rfl, rfl⟩ | rfl
  · rfl
  · cases ss with
    | nil => rfl
    | cons s ss => rfl

theorem isTruthy_texts {v : Json} {ss : List String} (h : v.IsTexts ss) :
    v.isTruthy = true ↔ ss ≠ [] := by
  rcases h with ⟨rfl, rfl⟩ | rfl
  · exact iff_of_false nofun (· rfl)
  · cases ss with
    | nil => exact iff_of_false nofun (· rfl)
    | cons s ss => exact iff_of_true rfl nofun

end Engine

/-! ## Columns -/

/-- What a description of a column must say. -/
structure Json.OfColumn (d : Json) : Prop where
  name : ∃ s, d.get? "name" = some (.str s)
  type : ∃ s, d.get? "type" = some (text? s)
  comment : ∃ s, Engine.option d "comment" = text? s

/-- The row says what the description of the column at this position says. -/
structure ColumnRow.Renders (row : ColumnRow) (d : Json) (position : Nat) : Prop where
  name : d.get? "name" = some (.str row.name)
  position : row.ordinalPosition = position
  dataType : d.get? "type" = some (Json.text? row.dataType)
  isNotNull : row.isNotNull = !((d.get? "nullable").getD (.bool true)).isTruthy
  defaultText : row.defaultText = (Engine.option d "default").shown?
  comment : Engine.option d "comment" = Json.text? row.comment

namespace Engine

open Json (text?)

variable {d : Json}

theorem key_of_get? {name : String} {v : Json} (h : d.get? name = some v) :
    key d name = .ok v := by
  rw [key, h]

theorem columnRow_ok (h : d.OfColumn) (position : Nat) :
    ∃ row, columnRow position d = .ok row ∧ row.Renders d position := by
  obtain ⟨name, hname⟩ := h.name
  obtain ⟨type, htype⟩ := h.type
  obtain ⟨comment, hcomment⟩ := h.comment
  let row : ColumnRow := {
    name, dataType := type, comment
    ordinalPosition := position
    isNotNull := !((d.get? "nullable").getD (.bool true)).isTruthy
    defaultText := (option d "default").shown? }
  have hrow : columnRow position d = checked (ColumnRow.ofJson row.toJson) := by
    rw [columnRow, key_of_get? hname, key_of_get? htype, hcomment]
    unfold ColumnRow.toJson
    dsimp only [row]
    generalize option d "default" = v
    cases v <;> rfl
  refine ⟨row, ?_, hname, rfl, htype, rfl, rfl, hcomment⟩
  rw [hrow, ColumnRow.ofJson_toJson]
  rfl

end Engine

/-! ## Constraints -/

structure Json.OfPrimaryKey (d : Json) : Prop where
  name : ∃ s, Engine.option d "name" = text? s
  columns : ∃ cs, (Engine.option d "constrained_columns").IsTexts cs

structure Json.OfForeignKey (d : Json) : Prop where
  name : ∃ s, Engine.option d "name" = text? s
  columns : ∃ cs : List String, d.get? "constrained_columns" = some (.arr (cs.map .str))
  schemaName : ∃ s, Engine.option d "referred_schema" = text? s
  table : ∃ s, d.get? "referred_table" = some (text? s)
  referredColumns : ∃ cs : List String, d.get? "referred_columns" = some (.arr (cs.map .str))
  options : Engine.option d "options" = .null ∨ ∃ ms, Engine.option d "options" = .obj ms
  onDelete : ∃ s, Engine.option (Engine.option d "options") "ondelete" = text? s
  onUpdate : ∃ s, Engine.option (Engine.option d "options") "onupdate" = text? s

/-- The rows of a primary key: none if the key has no columns. -/
def ConstraintRow.RenderPrimary (rows : List ConstraintRow) (d : Json) : Prop :=
  ∃ name cs, Engine.option d "name" = Json.text? name ∧
    (Engine.option d "constrained_columns").IsTexts cs ∧
      rows = if cs = [] then [] else [{ name, kind := .primaryKey, columns := cs }]

/-- The row says what the description of a foreign key says.  One that names no schema refers to the
default one, or else to the schema of its own table. -/
structure ConstraintRow.RendersForeign (row : ConstraintRow) (defaultSchema : Option String)
    (schemaName : String) (d : Json) : Prop where
  kind : row.kind = .foreignKey
  name : Engine.option d "name" = Json.text? row.name
  columns : d.get? "constrained_columns" = some (.arr (row.columns.map .str))
  referredSchema : ∃ s, Engine.option d "referred_schema" = Json.text? s ∧
    row.referredSchema = some (presentOr s (presentOr defaultSchema schemaName))
  referredTable : d.get? "referred_table" = some (Json.text? row.referredTable)
  referredColumns : d.get? "referred_columns" = some (.arr (row.referredColumns.map .str))
  onDelete : Engine.option (Engine.option d "options") "ondelete" = Json.text? row.onDelete
  onUpdate : Engine.option (Engine.option d "options") "onupdate" = Json.text? row.onUpdate

namespace Engine

variable {d : Json}

theorem primaryKeyRow_ok (h : d.OfPrimaryKey) :
    ∃ rows, primaryKeyRow d = .ok rows ∧ ConstraintRow.RenderPrimary rows d := by
  obtain ⟨name, hname⟩ := h.name
  obtain ⟨cs, hcs⟩ := h.columns
  refine ⟨_, ?_, name, cs, hname, hcs, rfl⟩
  by_cases hempty : cs = []
  · have htruthy := (not_congr (isTruthy_texts hcs)).mpr (not_not.mpr hempty)
    rw [if_pos hempty, primaryKeyRow, if_neg htruthy]
  · have htexts : option d "constrained_columns" = .arr (cs.map .str) :=
      hcs.resolve_left fun hnone => hempty hnone.2
    rw [if_neg hempty, primaryKeyRow, if_pos ((isTruthy_texts hcs).mpr hempty), hname, htexts,
      ConstraintRow.ofJson_short]
    rfl

theorem foreignKeyRow_ok (e : Engine) (ref : RelationRef) (h : d.OfForeignKey) :
    ∃ row, e.foreignKeyRow ref d = .ok row ∧
      row.RendersForeign e.defaultSchema ref.schemaName d := by
  obtain ⟨name, hname⟩ := h.name
  obtain ⟨columns, hcolumns⟩ := h.columns
  obtain ⟨schemaName, hschema⟩ := h.schemaName
  obtain ⟨table, htable⟩ := h.table
  obtain ⟨referredColumns, hreferred⟩ := h.referredColumns
  obtain ⟨onDelete, hdelete⟩ := h.onDelete
  obtain ⟨onUpdate, hupdate⟩ := h.onUpdate
  let row : ConstraintRow := {
    name, columns, referredColumns, onDelete, onUpdate
    kind := .foreignKey
    referredSchema := some (presentOr schemaName (presentOr e.defaultSchema ref.schemaName))
    referredTable := table }
  have hrow : e.foreignKeyRow ref d = checked (ConstraintRow.ofJson row.toJson) := by
    unfold foreignKeyRow
    dsimp only
    rw [key_of_get? hcolumns, key_of_get? htable, key_of_get? hreferred, hname, hschema, hdelete,
      hupdate, orElse_text, orElse_text]
    rfl
  refine ⟨row, ?_, rfl, hname, hcolumns, ⟨schemaName, hschema, rfl⟩, htable, hreferred, hdelete,
    hupdate⟩
  rw [hrow, ConstraintRow.ofJson_toJson]
  rfl

end Engine

/-! ## Types -/

structure Json.OfType (d : Json) : Prop where
  name : ∃ s, d.get? "name" = some (.str s)
  schemaName : ∃ s, Engine.option d "schema" = text? s

structure Json.OfEnumeration (d : Json) : Prop extends d.OfType where
  labels : ∃ ls, (Engine.option d "labels").IsTexts ls

/-- What the rows of all types have from their descriptions, and from the comments on types: of
several comments on a name the last one counts. -/
structure TypeRow.Renders (row : TypeRow) (schemaName : String)
    (comments : List (String × Option String)) (d : Json) : Prop where
  name : d.get? "name" = some (.str row.name)
  schemaName : ∃ s, Engine.option d "schema" = Json.text? s ∧
    row.schemaName = presentOr s schemaName
  comment : row.comment = (comments.reverse.lookup row.name).join

structure TypeRow.RendersEnumeration (row : TypeRow) (schemaName : String)
    (comments : List (String × Option String)) (d : Json) : Prop
    extends row.Renders schemaName comments d where
  kind : row.kind = .enumeration
  labels : (Engine.option d "labels").IsTexts row.labels
  baseType : row.baseType = none

structure TypeRow.RendersDomain (row : TypeRow) (schemaName : String)
    (comments : List (String × Option String)) (d : Json) : Prop
    extends row.Renders schemaName comments d where
  kind : row.kind = .domain
  labels : row.labels = []
  baseType : row.baseType = (Engine.option d "type").shown?

namespace Engine

variable {d : Json}

theorem enumerationRow_ok (schemaName : String) (comments : List (String × Option String))
    (h : d.OfEnumeration) :
    ∃ row, enumerationRow schemaName comments d = .ok row ∧
      row.RendersEnumeration schemaName comments d := by
  obtain ⟨name, hname⟩ := h.name
  obtain ⟨own, hown⟩ := h.schemaName
  obtain ⟨labels, hlabels⟩ := h.labels
  refine ⟨{ name, labels, schemaName := presentOr own schemaName, kind := .enumeration
            comment := (comments.reverse.lookup name).join }, ?_,
    ⟨hname, ⟨own, hown, rfl⟩, rfl⟩, rfl, hlabels, rfl⟩
  unfold enumerationRow
  rw [key_of_get? hname, hown, orElse_text, orElse_texts hlabels]
  show checked (TypeRow.ofJson (.obj [("name", .str name), _, _, _,
    ("comment", Json.text? (comments.reverse.lookup name).join)])) = _
  rw [TypeRow.ofJson_labelled]
  rfl

theorem domainRow_ok (schemaName : String) (comments : List (String × Option String))
    (h : d.OfType) :
    ∃ row, domainRow schemaName comments d = .ok row ∧
      row.RendersDomain schemaName comments d := by
  obtain ⟨name, hname⟩ := h.name
  obtain ⟨own, hown⟩ := h.schemaName
  refine ⟨{ name, schemaName := presentOr own schemaName, kind := .domain
            baseType := (option d "type").shown?
            comment := (comments.reverse.lookup name).join }, ?_,
    ⟨hname, ⟨own, hown, rfl⟩, rfl⟩, rfl, rfl, rfl⟩
  unfold domainRow
  rw [key_of_get? hname, hown, orElse_text]
  have hbase := TypeRow.ofJson_based name (presentOr own schemaName) .domain
    (option d "type").shown? (comments.reverse.lookup name).join
  generalize option d "type" = v at hbase ⊢
  cases v <;> exact congrArg checked hbase

end Engine
end SchemaLineage
