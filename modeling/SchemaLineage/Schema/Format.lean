import SchemaLineage.Schema.Basic
/-
The published JSON form of a schema and the reader of that form.

Every field is written, the absent ones as `null`.  For each type there is a lemma that reading what
was written gives the value back.
-/

namespace SchemaLineage

theorem Shape.choice_word {α : Type} {words : List (String × α)} {word : String} {a : α}
    (h : words.lookup word = some a) : Shape.choice words (.str word) = .ok a := by
  simp only [choice, Json.string?, Option.bind_some, h]

theorem Shape.nullable_optional {α : Type} {shape : Shape α} {toJson : α → Json}
    (h : ∀ a, shape (toJson a) = .ok a) (hn : ∀ a, toJson a ≠ .null) (a : Option α) :
    Shape.nullable shape (Json.optional (a.map toJson)) = .ok a := by
  cases a with
  | none => rfl
  | some a =>
    have := hn a
    simp only [Option.map_some, Json.optional]
    unfold nullable
    split
    · contradiction
    · rw [h]; rfl

theorem Shape.list_text (ss : List String) :
    Shape.list Shape.text (.arr (ss.map .str)) = .ok ss :=
  Shape.list_map_ok Shape.text .str ss fun _ _ => rfl

namespace ForeignKey

def toJson (k : ForeignKey) : Json :=
  .obj [("schema_name", .str k.schemaName), ("table_name", .str k.tableName),
    ("column_name", .str k.columnName), ("on_delete", .str k.onDelete.word),
    ("on_update", .str k.onUpdate.word), ("constraint_name", Json.text? k.constraintName),
    ("ambiguous", .bool k.ambiguous)]

def ofJson : Shape ForeignKey :=
  Shape.record "ForeignKeyRef" fun ms =>
    ForeignKey.mk
      <$> Shape.required "schema_name" Shape.text ms
      <*> Shape.required "table_name" Shape.text ms
      <*> Shape.required "column_name" Shape.text ms
      <*> Shape.withDefault "on_delete" .noAction (Shape.choice ForeignKeyAction.words) ms
      <*> Shape.withDefault "on_update" .noAction (Shape.choice ForeignKeyAction.words) ms
      <*> Shape.withDefault "constraint_name" none (Shape.nullable Shape.text) ms
      <*> Shape.withDefault "ambiguous" false Shape.truth ms

theorem ofJson_toJson (k : ForeignKey) : ofJson k.toJson = .ok k := by
  obtain ⟨s, t, c, d, u, n, a⟩ := k
  simp only [ofJson, toJson, Shape.record, Shape.required, Shape.withDefault, List.lookup_cons,
    Shape.text, Shape.truth, Shape.nullable_text, Shape.choice_word (ForeignKeyAction.lookup_word _),
    beq_self_eq_true, Checked.under_ok, Checked.map_ok, Checked.seq_ok, String.reduceBEq]

end ForeignKey

namespace Column

def toJson (c : Column) : Json :=
  .obj [("name", .str c.name), ("ordinal_position", .int c.ordinalPosition),
    ("data_type", .str c.dataType), ("nullable", .bool c.nullable),
    ("is_primary", .bool c.isPrimary), ("default", Json.text? c.defaultText),
    ("annotation", Json.optional (c.remarks.map Remarks.toJson)),
    ("reference", Json.optional (c.reference.map ForeignKey.toJson))]

def ofJson : Shape Column :=
  Shape.record "Column" fun ms =>
    Column.mk
      <$> Shape.required "name" Shape.text ms
      <*> Shape.required "ordinal_position" Shape.integer ms
      <*> Shape.withDefault "data_type" TypeName.unknown Shape.text ms
      <*> Shape.withDefault "nullable" true Shape.truth ms
      <*> Shape.withDefault "is_primary" false Shape.truth ms
      <*> Shape.withDefault "default" none (Shape.nullable Shape.text) ms
      <*> Shape.withDefault "annotation" none (Shape.nullable Remarks.ofJson) ms
      <*> Shape.withDefault "reference" none (Shape.nullable ForeignKey.ofJson) ms

theorem ofJson_toJson (c : Column) : ofJson c.toJson = .ok c := by
  obtain ⟨n, o, t, nl, p, d, a, r⟩ := c
  have ha := Shape.nullable_optional Remarks.ofJson_toJson (fun _ => nofun) a
  have hr := Shape.nullable_optional ForeignKey.ofJson_toJson (fun _ => nofun) r
  simp only [ofJson, toJson, Shape.record, Shape.required, Shape.withDefault, List.lookup_cons,
    Shape.text, Shape.truth, Shape.integer, Shape.nullable_text, ha, hr,
    beq_self_eq_true, Checked.under_ok, Checked.map_ok, Checked.seq_ok, String.reduceBEq]

theorem list_ofJson (cs : List Column) :
    Shape.list ofJson (.arr (cs.map toJson)) = .ok cs :=
  Shape.list_map_ok ofJson toJson cs fun c _ => ofJson_toJson c

end Column

namespace Relation

def fields (r : Relation) : List (String × Json) :=
  [("name", .str r.name), ("schema_name", .str r.schemaName),
    ("columns", .arr (r.columns.map Column.toJson)),
    ("annotation", Json.optional (r.remarks.map Remarks.toJson))]

def toJson (r : Relation) : Json := .obj r.fields

def ofMembers (ms : List (String × Json)) : Checked Relation :=
  Relation.mk
    <$> Shape.required "name" Shape.text ms
    <*> Shape.required "schema_name" Shape.text ms
    <*> Shape.withDefault "columns" [] (Shape.list Column.ofJson) ms
    <*> Shape.withDefault "annotation" none (Shape.nullable Remarks.ofJson) ms

def ofJson : Shape Relation := Shape.record "Relation" ofMembers

/-- Members that follow the fields of a relation do not change what is read. -/
theorem ofMembers_fields (r : Relation) (more : List (String × Json)) :
    ofMembers (r.fields ++ more) = .ok r := by
  obtain ⟨n, s, cs, a⟩ := r
  have ha := Shape.nullable_optional Remarks.ofJson_toJson (fun _ => nofun) a
  simp only [ofMembers, fields, List.cons_append, Shape.required, Shape.withDefault, List.lookup_cons,
    Shape.text, Column.list_ofJson, ha, beq_self_eq_true, Checked.under_ok, Checked.map_ok,
    Checked.seq_ok, String.reduceBEq]

theorem ofJson_toJson (r : Relation) : ofJson r.toJson = .ok r := by
  have h := ofMembers_fields r []
  rw [List.append_nil] at h
  exact h

end Relation

/-- The word that every table carries. -/
def Table.kindWord : String := "table"

def View.kindWord : String := "view"

namespace Table

def toJson (t : Table) : Json := .obj (t.toRelation.fields ++ [("kind", .str kindWord)])

def ofJson : Shape Table :=
  Shape.record "Table" fun ms =>
    (fun r () => Table.mk r)
      <$> Relation.ofMembers ms
      <*> Shape.withDefault "kind" () (Shape.choice [(kindWord, ())]) ms

theorem ofJson_toJson (t : Table) : ofJson t.toJson = .ok t := by
  simp only [ofJson, toJson, Shape.record, Relation.ofMembers_fields]
  simp only [Shape.withDefault, Relation.fields, List.cons_append, List.nil_append, List.lookup_cons,
    String.reduceBEq, beq_self_eq_true]
  rfl

end Table

namespace View

def toJson (v : View) : Json :=
  .obj (v.toRelation.fields ++
    [("kind", .str kindWord), ("is_materialized", .bool v.isMaterialized),
     ("depends_on", .arr (v.dependsOn.map RelationRef.toJson)),
     ("definition", Json.text? v.definition)])

def ofJson : Shape View :=
  Shape.record "View" fun ms =>
    (fun r () m d q => View.mk r m d q)
      <$> Relation.ofMembers ms
      <*> Shape.withDefault "kind" () (Shape.choice [(kindWord, ())]) ms
      <*> Shape.withDefault "is_materialized" false Shape.truth ms
      <*> Shape.withDefault "depends_on" [] (Shape.list RelationRef.ofJson) ms
      <*> Shape.withDefault "definition" none (Shape.nullable Shape.text) ms

theorem ofJson_toJson (v : View) : ofJson v.toJson = .ok v := by
  have hd : Shape.list RelationRef.ofJson (.arr (v.dependsOn.map RelationRef.toJson))
      = .ok v.dependsOn :=
    Shape.list_map_ok _ _ _ fun r _ => RelationRef.ofJson_toJson r
  have hk : Shape.choice [(kindWord, ())] (.str kindWord) = .ok () :=
    Shape.choice_word (by simp [kindWord])
  simp only [ofJson, toJson, Shape.record, Relation.ofMembers_fields]
  simp only [Shape.withDefault, Relation.fields, List.cons_append, List.nil_append, List.lookup_cons,
    String.reduceBEq, beq_self_eq_true, hd, hk, Shape.truth, Shape.nullable_text,
    Checked.under_ok, Checked.map_ok, Checked.seq_ok]

end View

namespace CustomType

def toJson (t : CustomType) : Json :=
  .obj [("name", .str t.name), ("schema_name", .str t.schemaName), ("kind", .str t.kind.word),
    ("labels", .arr (t.labels.map .str)), ("base_type", Json.text? t.baseType),
    ("annotation", Json.optional (t.remarks.map Remarks.toJson))]

def ofJson : Shape CustomType :=
  Shape.record "CustomType" fun ms =>
    CustomType.mk
      <$> Shape.required "name" Shape.text ms
      <*> Shape.required "schema_name" Shape.text ms
      <*> Shape.withDefault "kind" .enumeration (Shape.choice TypeKind.words) ms
      <*> Shape.withDefault "labels" [] (Shape.list Shape.text) ms
      <*> Shape.withDefault "base_type" none (Shape.nullable Shape.text) ms
      <*> Shape.withDefault "annotation" none (Shape.nullable Remarks.ofJson) ms

theorem ofJson_toJson (t : CustomType) : ofJson t.toJson = .ok t := by
  obtain ⟨n, s, k, l, b, a⟩ := t
  have ha := Shape.nullable_optional Remarks.ofJson_toJson (fun _ => nofun) a
  simp only [ofJson, toJson, Shape.record, Shape.required, Shape.withDefault, List.lookup_cons,
    Shape.text, Shape.list_text, Shape.nullable_text, ha,
    Shape.choice_word (TypeKind.lookup_word _), beq_self_eq_true, Checked.under_ok,
    Checked.map_ok, Checked.seq_ok, String.reduceBEq]

end CustomType

namespace TableOrView

def toJson : TableOrView → Json
  | table t => t.toJson
  | view v => v.toJson

end TableOrView

namespace Schema

def toJson (s : Schema) : Json :=
  .obj [("name", .str s.name), ("tables", .arr (s.tables.map Table.toJson)),
    ("views", .arr (s.views.map View.toJson)), ("types", .arr (s.types.map CustomType.toJson))]

def ofJson : Shape Schema :=
  Shape.record "Schema" fun ms =>
    Schema.mk
      <$> Shape.required "name" Shape.text ms
      <*> Shape.withDefault "tables" [] (Shape.list Table.ofJson) ms
      <*> Shape.withDefault "views" [] (Shape.list View.ofJson) ms
      <*> Shape.withDefault "types" [] (Shape.list CustomType.ofJson) ms

theorem ofJson_toJson (s : Schema) : ofJson s.toJson = .ok s := by
  obtain ⟨n, ts, vs, ys⟩ := s
  have ht := Shape.list_map_ok _ _ ts fun t _ => Table.ofJson_toJson t
  have hv := Shape.list_map_ok _ _ vs fun v _ => View.ofJson_toJson v
  have hy := Shape.list_map_ok _ _ ys fun y _ => CustomType.ofJson_toJson y
  simp only [ofJson, toJson, Shape.record, Shape.required, Shape.withDefault, List.lookup_cons,
    Shape.text, ht, hv, hy, beq_self_eq_true, Checked.under_ok, Checked.map_ok, Checked.seq_ok,
    String.reduceBEq]

end Schema

namespace Issue

def toJson (i : Issue) : Json :=
  .obj [("kind", .str i.kind.word), ("relation", .str i.relation), ("column", Json.text? i.column),
    ("message", .str i.message)]

def ofJson : Shape Issue :=
  Shape.record "ExtractionIssue" fun ms =>
    Issue.mk
      <$> Shape.required "kind" (Shape.choice IssueKind.words) ms
      <*> Shape.required "relation" Shape.text ms
      <*> Shape.withDefault "column" none (Shape.nullable Shape.text) ms
      <*> Shape.required "message" Shape.text ms

theorem ofJson_toJson (i : Issue) : ofJson i.toJson = .ok i := by
  obtain ⟨k, r, c, m⟩ := i
  simp only [ofJson, toJson, Shape.record, Shape.required, Shape.withDefault, List.lookup_cons,
    Shape.text, Shape.nullable_text, Shape.choice_word (IssueKind.lookup_word _),
    beq_self_eq_true, Checked.under_ok, Checked.map_ok, Checked.seq_ok, String.reduceBEq]

end Issue

namespace Extraction

def toJson (e : Extraction) : Json :=
  .obj [("database_schema", e.schema.toJson), ("issues", .arr (e.issues.map Issue.toJson))]

def ofJson : Shape Extraction :=
  Shape.record "ExtractionResult" fun ms =>
    Extraction.mk
      <$> Shape.required "database_schema" Schema.ofJson ms
      <*> Shape.withDefault "issues" [] (Shape.list Issue.ofJson) ms

theorem ofJson_toJson (e : Extraction) : ofJson e.toJson = .ok e := by
  obtain ⟨s, is⟩ := e
  have hi := Shape.list_map_ok _ _ is fun i _ => Issue.ofJson_toJson i
  simp only [ofJson, toJson, Shape.record, Shape.required, Shape.withDefault, List.lookup_cons,
    Schema.ofJson_toJson, hi, beq_self_eq_true, Checked.under_ok, Checked.map_ok, Checked.seq_ok,
    String.reduceBEq]

end Extraction
end SchemaLineage
