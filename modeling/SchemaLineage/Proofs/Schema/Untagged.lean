import SchemaLineage.Schema.Format
/-
The published form of a result read back.

What is written gives the value back type by type (`ofJson_toJson`), and the tags that every
annotation carries for display have no part in it.  That is a property of the readers and not of what
is written: a document from which the tags are taken away, wherever annotations stand in it, is read
as before, faults included (`Shape.Blind`).  So each document that agrees with a published one but
for tags reads back to the same result.
-/

namespace SchemaLineage

namespace Json

/-- An annotation without its tags. -/
def withoutTags : Json → Json
  | .obj ms => .obj (ms.filter fun m => m.1 ≠ "tags")
  | v => v

mutual

/-- A document whose annotations have no tags. -/
def untagged : Json → Json
  | .arr vs => .arr (untaggedItems vs)
  | .obj ms => .obj (untaggedMembers ms)
  | v => v

def untaggedItems : List Json → List Json
  | [] => []
  | v :: vs => untagged v :: untaggedItems vs

def untaggedMembers : List (String × Json) → List (String × Json)
  | [] => []
  | (name, v) :: ms =>
    (name, if name = "annotation" then v.withoutTags else untagged v) :: untaggedMembers ms

end

theorem lookup_untaggedMembers (name : String) (ms : List (String × Json)) :
    (untaggedMembers ms).lookup name = (ms.lookup name).map fun v =>
      if name = "annotation" then v.withoutTags else v.untagged := by
  induction ms with
  | nil => rfl
  | cons m ms ih =>
    obtain ⟨name', v⟩ := m
    rw [untaggedMembers, List.lookup_cons, List.lookup_cons]
    by_cases heq : name = name'
    · subst heq
      rw [beq_self_eq_true]
      rfl
    · rw [beq_eq_false_iff_ne.mpr heq]
      exact ih

end Json

namespace Shape

open Json

variable {α : Type} {shape : Shape α}

/-- A check that finds the same without tags. -/
def Blind (shape : Shape α) : Prop := ∀ v, shape v.untagged = shape v

@[simp] theorem blind_text : Blind text := by
  intro v
  cases v <;> rfl

@[simp] theorem blind_integer : Blind integer := by
  intro v
  cases v <;> rfl

@[simp] theorem blind_truth : Blind truth := by
  intro v
  cases v <;> rfl

@[simp] theorem blind_choice (choices : List (String × α)) : Blind (choice choices) := by
  intro v
  cases v <;> rfl

@[simp] theorem blind_nullable (h : Blind shape) : Blind (nullable shape) := by
  intro v
  cases v with
  | arr vs => exact congrArg (Checked.map some) (h (.arr vs))
  | obj ms => exact congrArg (Checked.map some) (h (.obj ms))
  | _ => rfl

@[simp] theorem blind_list (h : Blind shape) : Blind (list shape) := by
  intro v
  cases v with
  | arr vs =>
    have hitems : ∀ n, itemsFrom shape n (untaggedItems vs) = itemsFrom shape n vs := by
      induction vs with
      | nil => exact fun _ => rfl
      | cons v vs ih =>
        intro n
        rw [untaggedItems, itemsFrom, itemsFrom, h v, ih]
    exact congrArg Checked.ofList (hitems 0)
  | _ => rfl

theorem blind_record {fields : List (String × Json) → Checked α}
    (h : ∀ ms, fields (untaggedMembers ms) = fields ms) (name : String) :
    Blind (record name fields) := by
  intro v
  cases v with
  | obj ms => exact h ms
  | _ => rfl

@[simp] theorem required_untagged {name : String} (hname : name ≠ "annotation") (h : Blind shape)
    (ms : List (String × Json)) :
    required name shape (untaggedMembers ms) = required name shape ms := by
  rw [required, required, lookup_untaggedMembers]
  simp only [if_neg hname]
  cases ms.lookup name with
  | none => rfl
  | some v => exact congrArg (Checked.under _) (h v)

@[simp] theorem withDefault_untagged {name : String} (hname : name ≠ "annotation") (h : Blind shape)
    (value : α) (ms : List (String × Json)) :
    withDefault name value shape (untaggedMembers ms) = withDefault name value shape ms := by
  rw [withDefault, withDefault, lookup_untaggedMembers]
  simp only [if_neg hname]
  cases ms.lookup name with
  | none => rfl
  | some v => exact congrArg (Checked.under _) (h v)

end Shape

theorem Remarks.ofJson_withoutTags (v : Json) : ofJson v.withoutTags = ofJson v := by
  cases v with
  | obj ms =>
    simp only [Json.withoutTags, ofJson, Shape.record, Shape.withDefault]
    -- no reader of a field looks up the member that is left out
    rw [lookup_filter (by simp), lookup_filter (by simp), lookup_filter (by simp),
      lookup_filter (by simp), lookup_filter (by simp)]
  | _ => rfl

@[simp] theorem Shape.annotation_untagged (ms : List (String × Json)) :
    withDefault "annotation" none (nullable Remarks.ofJson) (Json.untaggedMembers ms) =
      withDefault "annotation" none (nullable Remarks.ofJson) ms := by
  have hnullable : ∀ v : Json,
      nullable Remarks.ofJson v.withoutTags = nullable Remarks.ofJson v := by
    intro v
    cases v with
    | obj ms => exact congrArg (Checked.map some) (Remarks.ofJson_withoutTags (.obj ms))
    | _ => rfl
  rw [withDefault, withDefault, Json.lookup_untaggedMembers]
  simp only [↓reduceIte]
  cases ms.lookup "annotation" with
  | none => rfl
  | some v => exact congrArg (Checked.under _) (hnullable v)

open Shape

@[simp] theorem RelationRef.blind_ofJson : Blind ofJson :=
  blind_record (fun ms => by simp) _

@[simp] theorem ForeignKey.blind_ofJson : Blind ofJson :=
  blind_record (fun ms => by simp) _

@[simp] theorem Column.blind_ofJson : Blind ofJson :=
  blind_record (fun ms => by simp) _

@[simp] theorem Relation.ofMembers_untagged (ms : List (String × Json)) :
    ofMembers (Json.untaggedMembers ms) = ofMembers ms := by
  simp [ofMembers]

@[simp] theorem Table.blind_ofJson : Blind ofJson :=
  blind_record (fun ms => by simp) _

@[simp] theorem View.blind_ofJson : Blind ofJson :=
  blind_record (fun ms => by simp) _

@[simp] theorem CustomType.blind_ofJson : Blind ofJson :=
  blind_record (fun ms => by simp) _

@[simp] theorem Schema.blind_ofJson : Blind ofJson :=
  blind_record (fun ms => by simp) _

@[simp] theorem Issue.blind_ofJson : Blind ofJson :=
  blind_record (fun ms => by simp) _

theorem Extraction.blind_ofJson : Blind ofJson :=
  blind_record (fun ms => by simp) _

/-- A published result reads back to itself, and so does each document that differs from it in the
tags of annotations only. -/
theorem Extraction.ofJson_of_untagged (e : Extraction) :
    ofJson e.toJson = .ok e ∧ ∀ v : Json, v.untagged = e.toJson.untagged → ofJson v = .ok e := by
  refine ⟨ofJson_toJson e, fun v hv => ?_⟩
  calc ofJson v = ofJson v.untagged := (blind_ofJson v).symm
    _ = ofJson e.toJson.untagged := by rw [hv]
    _ = ofJson e.toJson := blind_ofJson e.toJson
    _ = .ok e := ofJson_toJson e

/-- A type with a tag of its own kind. -/
def Extraction.moods : Extraction :=
  { schema :=
      { name := "main"
        types :=
          [{ name := "mood"
             schemaName := "main"
             labels := ["calm", "cross"]
             remarks := some
              { description := some "how it went", extraTags := [("owner", "staff")] } }] }
    issues := [{ kind := .skippedRelation, relation := "main.log", message := "it is gone" }] }

/-- A document whose annotation shows other tags than the ones it stores. -/
theorem Extraction.retagged_moods :
    ofJson (.obj
      [("database_schema", .obj
        [("name", .str "main"), ("tables", .arr []), ("views", .arr []),
         ("types", .arr [.obj
          [("name", .str "mood"), ("schema_name", .str "main"), ("kind", .str "enum"),
           ("labels", .arr [.str "calm", .str "cross"]), ("base_type", .null),
           ("annotation", .obj
            [("tags", .obj [("owner", .str "nobody"), ("fixed", .str "")]),
             ("description", .str "how it went"), ("type_override", .null), ("deprecated", .null),
             ("fixed", .bool false), ("extra_tags", .obj [("owner", .str "staff")])])]])]),
       ("issues", .arr [.obj
          [("kind", .str "skipped_relation"), ("relation", .str "main.log"), ("column", .null),
           ("message", .str "it is gone")]])]) = .ok moods :=
  (ofJson_of_untagged moods).2 _ (by rfl)

end SchemaLineage
