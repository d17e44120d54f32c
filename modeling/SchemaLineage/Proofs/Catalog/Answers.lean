import SchemaLineage.Proofs.Catalog.Descriptions
/-
How a catalog over a driver answers.

Behind each question there are one or more calls to the driver, made one after another.  If one
fails there is no answer, and the first failure is reported with what was asked for; nothing that
the driver says is kept then.  Otherwise the answer is complete: everything that was listed is in
it, in the order of the listing (`Answers`).

A question is a sequence of calls and a part that only puts the results together.  That this part
cannot fail is what is known of descriptions that say what they must (`WellFormed`), so all six
questions come down to their faults (`Probe.fault?_bind`) and to `Answers.of_ask`.
-/

namespace SchemaLineage

namespace Probe

variable {α β : Type}

def fault? : Probe α → Option DriverFault
  | .error f => some f
  | .ok _ => none

theorem fault?_one (x : Probe α) : x.fault? = [x.fault?].findSome? id := by
  cases x with
  | error f => rfl
  | ok a => rfl

/-- Of calls that are made one after another the first one that fails counts. -/
theorem fault?_seq {x : Probe α} {k : α → Probe β} {calls rest : List (Option DriverFault)}
    (hx : x.fault? = calls.findSome? id) (hk : ∀ a, (k a).fault? = rest.findSome? id) :
    (x >>= k).fault? = (calls ++ rest).findSome? id := by
  rw [List.findSome?_append, ← hx]
  cases x with
  | error f => rfl
  | ok a => exact hk a

theorem fault?_bind {x : Probe α} {k : α → Probe β} {rest : List (Option DriverFault)}
    (hk : ∀ a, (k a).fault? = rest.findSome? id) :
    (x >>= k).fault? = (x.fault? :: rest).findSome? id :=
  fault?_seq (fault?_one x) hk

theorem fault?_last (x : Probe α) (f : α → β) :
    (x >>= fun a => pure (f a)).fault? = [x.fault?].findSome? id := by
  cases x with
  | error e => rfl
  | ok a => rfl

end Probe

/-- What comes back when an operation makes calls one after another: the text of the first failure
under the name of the operation, or silence if a call is never answered, or else a complete
answer. -/
structure Answers {α : Type} (what : String) (calls : List (Option DriverFault))
    (Complete : α → Prop) (reply : Reply α) : Prop where
  unavailable : ∀ message, reply = .error (.unavailable message) ↔
    ∃ text, calls.findSome? id = some (.failed text) ∧
      message = "Catalog query failed (" ++ what ++ "): " ++ text
  silent : reply = .error .silent ↔ calls.findSome? id = some .silent
  answered : calls.findSome? id = none → ∃ a, reply = .ok a ∧ Complete a

section

variable {α β : Type} {what : String} {calls : List (Option DriverFault)} {Complete : α → Prop}

theorem Answers.of_ok {a : α} (hcalls : calls.findSome? id = none) (ha : Complete a) :
    Answers what calls Complete (.ok a) := by
  refine ⟨fun message => ?_, ?_, fun _ => ⟨a, rfl, ha⟩⟩
  · rw [hcalls]
    exact iff_of_false nofun fun ⟨_, h, _⟩ => nomatch h
  · rw [hcalls]
    exact iff_of_false nofun nofun

/-- If only the calls can fail, their first failure is all there is to report. -/
theorem Answers.of_ask {p : Probe β} {k : β → Reply α} (hcalls : p.fault? = calls.findSome? id)
    (hk : ∀ b, p = .ok b → ∃ a, k b = .ok a ∧ Complete a) :
    Answers what calls Complete (Engine.ask what p >>= k) := by
  cases p with
  | ok b =>
    obtain ⟨a, ha, hcomplete⟩ := hk b rfl
    show Answers what calls Complete (k b)
    rw [ha]
    exact .of_ok hcalls.symm hcomplete
  | error f =>
    have hfirst : calls.findSome? id = some f := hcalls.symm
    refine ⟨fun message => ?_, ?_, fun hnone => ?_⟩
    · rw [hfirst]
      cases f with
      | failed text =>
        constructor
        · intro h
          cases h
          exact ⟨text, rfl, rfl⟩
        · rintro ⟨_, ⟨⟩, rfl⟩
          rfl
      | silent => exact iff_of_false nofun fun ⟨_, h, _⟩ => nomatch h
    · rw [hfirst]
      cases f with
      | failed text => exact iff_of_false nofun nofun
      | silent => exact iff_of_true rfl rfl
    · rw [hfirst] at hnone
      cases hnone

end

namespace Engine

/-- Everything that is described says what it must. -/
structure WellFormed (e : Engine) : Prop where
  columns : ∀ {s n ds}, e.columns s n = .ok ds → ∀ d ∈ ds, d.OfColumn
  primaryKey : ∀ {s n d}, e.primaryKey s n = .ok d → d.OfPrimaryKey
  foreignKeys : ∀ {s n ds}, e.foreignKeys s n = .ok ds → ∀ d ∈ ds, d.OfForeignKey
  enumerations : ∀ {s ds}, e.enumerations s = .ok ds → ∀ d ∈ ds, d.OfEnumeration
  domains : ∀ {s ds}, e.domains s = .ok ds → ∀ d ∈ ds, d.OfType

variable (e : Engine) (schemaName : String) (ref : RelationRef)

/-! ## The calls behind each question -/

/-- Why there is no connection for a question. -/
def connectFault? : Option DriverFault :=
  match e.connect with
  | .ok () => none
  | .error (.failed text) => some (.failed text)
  | .error (.other text) => some (.failed text)

theorem opened_fault? : e.opened.fault? = e.connectFault? := by
  unfold opened connectFault?
  cases e.connect with
  | error f => cases f <;> rfl
  | ok _ => rfl

def partitionCalls : List (Option DriverFault) :=
  if e.isPostgres then [e.connectFault?, (e.partitions schemaName).fault?] else []

def relationCalls : List (Option DriverFault) :=
  e.inspect.fault? :: (e.tableNames schemaName).fault? :: (e.partitionCalls schemaName ++
    [(e.viewNames schemaName).fault?, (e.materializedNames schemaName).fault?])

def columnCalls : List (Option DriverFault) :=
  [e.inspect.fault?, (e.columns ref.schemaName ref.name).fault?]

def constraintCalls : List (Option DriverFault) :=
  [e.inspect.fault?, (e.primaryKey ref.schemaName ref.name).fault?,
    (e.foreignKeys ref.schemaName ref.name).fault?]

def definitionCalls : List (Option DriverFault) :=
  [e.inspect.fault?, (e.definition ref.schemaName ref.name).fault?]

def commentCalls : List (Option DriverFault) :=
  [e.inspect.fault?, (e.comment ref.schemaName ref.name).fault?]

def typeCalls : List (Option DriverFault) :=
  if e.isPostgres then
    [e.inspect.fault?, (e.enumerations schemaName).fault?, (e.domains schemaName).fault?,
      e.connectFault?, (e.typeComments schemaName).fault?]
  else []

/-! ## Complete answers -/

/-- Tables that are no parts of others, views, and materialized views where there can be any. -/
def ListsRelations (refs : List RelationRef) : Prop :=
  ∃ tables partitions views materialized, e.tableNames schemaName = .ok tables ∧
    (if e.isPostgres then e.partitions schemaName = .ok partitions else partitions = []) ∧
    e.viewNames schemaName = .ok views ∧ e.materializedNames schemaName = .ok materialized ∧
    refs = (tables.filter (· ∉ partitions)).map (⟨schemaName, ·, .table⟩) ++
      views.map (⟨schemaName, ·, .view⟩) ++
        (materialized.getD []).map (⟨schemaName, ·, .materializedView⟩)

def ListsColumns (rows : List ColumnRow) : Prop :=
  ∃ ds, e.columns ref.schemaName ref.name = .ok ds ∧
    List.Forall₂ (fun d row => row.Renders d.1 d.2) (ds.zipIdx 1) rows

def ListsConstraints (rows : List ConstraintRow) : Prop :=
  ∃ d ds keys foreign, e.primaryKey ref.schemaName ref.name = .ok d ∧
    e.foreignKeys ref.schemaName ref.name = .ok ds ∧ rows = keys ++ foreign ∧
    ConstraintRow.RenderPrimary keys d ∧
    List.Forall₂ (fun d row => row.RendersForeign e.defaultSchema ref.schemaName d) ds foreign

def ListsTypes (rows : List TypeRow) : Prop :=
  if e.isPostgres then
    ∃ es ds comments enumerations domains, e.enumerations schemaName = .ok es ∧
      e.domains schemaName = .ok ds ∧ e.typeComments schemaName = .ok comments ∧
      rows = enumerations ++ domains ∧
      List.Forall₂ (fun d row => row.RendersEnumeration schemaName comments d) es enumerations ∧
      List.Forall₂ (fun d row => row.RendersDomain schemaName comments d) ds domains
  else rows = []

/-! ## The answers -/

variable {e}

def partitionNames (e : Engine) (schemaName : String) : Probe (List String) := do
  if e.isPostgres then
    e.opened
    e.partitions schemaName
  else return []

theorem listing_eq : e.listing schemaName = do
    e.inspect
    let tables ← e.tableNames schemaName
    let partitions ← e.partitionNames schemaName
    let views ← e.viewNames schemaName
    let materialized ← e.materializedNames schemaName
    return (tables.filter (· ∉ partitions), views, materialized.getD []) := by
  unfold listing partitionNames
  by_cases hpostgres : e.isPostgres = true
  · simp only [if_pos hpostgres, bind_assoc]
  · simp only [if_neg hpostgres]

theorem partitionNames_fault? :
    (e.partitionNames schemaName).fault? = (e.partitionCalls schemaName).findSome? id := by
  unfold partitionNames partitionCalls
  rw [← opened_fault?]
  by_cases hpostgres : e.isPostgres = true
  · rw [if_pos hpostgres, if_pos hpostgres]
    exact Probe.fault?_bind fun _ => Probe.fault?_one _
  · rw [if_neg hpostgres, if_neg hpostgres]
    rfl

theorem listing_fault? :
    (e.listing schemaName).fault? = (e.relationCalls schemaName).findSome? id := by
  rw [listing_eq]
  refine Probe.fault?_bind fun _ => Probe.fault?_bind fun tables => ?_
  refine Probe.fault?_seq (partitionNames_fault? schemaName) fun partitions => ?_
  exact Probe.fault?_bind fun views => Probe.fault?_last _ _

theorem partitionNames_ok {partitions : List String}
    (h : e.partitionNames schemaName = .ok partitions) :
    if e.isPostgres then e.partitions schemaName = .ok partitions else partitions = [] := by
  unfold partitionNames at h
  by_cases hpostgres : e.isPostgres = true
  · rw [if_pos hpostgres] at h ⊢
    obtain ⟨_, -, h⟩ := bind_ok_inv h
    exact h
  · rw [if_neg hpostgres] at h ⊢
    cases h
    rfl

theorem of_listing {tables views materialized : List String}
    (h : e.listing schemaName = .ok (tables, views, materialized)) :
    e.ListsRelations schemaName (tables.map (⟨schemaName, ·, .table⟩) ++
      views.map (⟨schemaName, ·, .view⟩) ++
        materialized.map (⟨schemaName, ·, .materializedView⟩)) := by
  rw [listing_eq] at h
  obtain ⟨_, -, h⟩ := bind_ok_inv h
  obtain ⟨names, hnames, h⟩ := bind_ok_inv h
  obtain ⟨partitions, hpartitions, h⟩ := bind_ok_inv h
  obtain ⟨views', hviews, h⟩ := bind_ok_inv h
  obtain ⟨answer, hanswer, h⟩ := bind_ok_inv h
  cases h
  exact ⟨names, partitions, views, answer, hnames, partitionNames_ok schemaName hpartitions,
    hviews, hanswer, rfl⟩

theorem relations_answers : Answers ("list relations in " ++ schemaName)
    (e.relationCalls schemaName) (e.ListsRelations schemaName) (e.relations schemaName) :=
  Answers.of_ask (listing_fault? schemaName) fun ⟨_, _, _⟩ h => ⟨_, rfl, of_listing schemaName h⟩

theorem columnRows_answers (h : e.WellFormed) : Answers ("columns of " ++ ref.qualifiedName)
    (e.columnCalls ref) (e.ListsColumns ref) (e.columnRows ref) := by
  refine Answers.of_ask (Probe.fault?_bind fun _ => Probe.fault?_one _) fun ds hcalls => ?_
  obtain ⟨_, -, hds⟩ := bind_ok_inv hcalls
  have hcolumn := h.columns hds
  have hrow : ∀ d ∈ ds.zipIdx 1, ∃ row, columnRow d.2 d.1 = .ok row ∧ row.Renders d.1 d.2 :=
    fun d hd => columnRow_ok (hcolumn d.1 (List.fst_mem_of_mem_zipIdx hd)) d.2
  obtain ⟨rows, hrows, hrenders⟩ := exists_mapM_ok hrow
  exact ⟨rows, hrows, ds, hds, hrenders⟩

theorem constraintRows_answers (h : e.WellFormed) :
    Answers ("constraints of " ++ ref.qualifiedName) (e.constraintCalls ref)
      (e.ListsConstraints ref) (e.constraintRows ref) := by
  refine Answers.of_ask ?_ fun ⟨d, ds⟩ hcalls => ?_
  · refine Probe.fault?_bind fun _ => Probe.fault?_bind fun primary => ?_
    exact Probe.fault?_last _ _
  · obtain ⟨_, -, hcalls⟩ := bind_ok_inv hcalls
    obtain ⟨_, hd, hcalls⟩ := bind_ok_inv hcalls
    obtain ⟨_, hds, hcalls⟩ := bind_ok_inv hcalls
    cases hcalls
    obtain ⟨keys, hkeys, hprimary⟩ := primaryKeyRow_ok (h.primaryKey hd)
    obtain ⟨foreign, hforeign, hrenders⟩ :=
      exists_mapM_ok fun d hd => foreignKeyRow_ok e ref (h.foreignKeys hds d hd)
    refine ⟨keys ++ foreign, ?_, d, ds, keys, foreign, hd, hds, rfl, hprimary, hrenders⟩
    dsimp only
    rw [hkeys, hforeign]
    rfl

/-- An operation that hands on what its last call says. -/
theorem inspected_answers {α : Type} (what : String) (p : Probe α) :
    Answers what [e.inspect.fault?, p.fault?] (fun a => p = .ok a)
      (ask what do
        e.inspect
        p) := by
  have h : Answers what [e.inspect.fault?, p.fault?] (fun a => p = .ok a)
      (ask what (e.inspect >>= fun _ => p) >>= pure) := by
    refine .of_ask (Probe.fault?_bind fun _ => Probe.fault?_one p) fun a hcalls => ?_
    obtain ⟨_, -, ha⟩ := bind_ok_inv hcalls
    exact ⟨a, rfl, ha⟩
  rwa [bind_pure] at h

theorem typeRows_answers (h : e.WellFormed) : Answers ("types in " ++ schemaName)
    (e.typeCalls schemaName) (e.ListsTypes schemaName) (e.typeRows schemaName) := by
  unfold typeCalls ListsTypes typeRows
  rw [← opened_fault?]
  by_cases hpostgres : e.isPostgres = true
  · rw [if_pos hpostgres, if_neg (by simpa using hpostgres)]
    simp only [if_pos hpostgres]
    refine Answers.of_ask ?_ fun ⟨es, ds, comments⟩ hcalls => ?_
    · refine Probe.fault?_bind fun _ => Probe.fault?_bind fun es => ?_
      refine Probe.fault?_bind fun ds => Probe.fault?_bind fun _ => ?_
      exact Probe.fault?_last _ _
    · obtain ⟨_, -, hcalls⟩ := bind_ok_inv hcalls
      obtain ⟨_, hes, hcalls⟩ := bind_ok_inv hcalls
      obtain ⟨_, hds, hcalls⟩ := bind_ok_inv hcalls
      obtain ⟨_, -, hcalls⟩ := bind_ok_inv hcalls
      obtain ⟨_, hcomments, hcalls⟩ := bind_ok_inv hcalls
      cases hcalls
      obtain ⟨enumerations, henumerations, heach⟩ :=
        exists_mapM_ok fun d hd => enumerationRow_ok schemaName comments (h.enumerations hes d hd)
      obtain ⟨domains, hdomains, heach'⟩ :=
        exists_mapM_ok fun d hd => domainRow_ok schemaName comments (h.domains hds d hd)
      refine ⟨enumerations ++ domains, ?_, es, ds, comments, enumerations, domains, hes, hds,
        hcomments, rfl, heach, heach'⟩
      dsimp only
      rw [henumerations, hdomains]
      rfl
  · rw [if_neg hpostgres, if_pos (by simpa using hpostgres)]
    simp only [if_neg hpostgres]
    exact .of_ok rfl rfl

end Engine

/-- Each question fails exactly with the first of its calls that fails, and says which operation
failed and how.  If none fails its answer is complete. -/
theorem Engine.catalog_answers {e : Engine} (h : e.WellFormed) (schemaName : String)
    (ref : RelationRef) :
    Answers ("list relations in " ++ schemaName) (e.relationCalls schemaName)
      (e.ListsRelations schemaName) (e.catalog.relations schemaName) ∧
    Answers ("columns of " ++ ref.qualifiedName) (e.columnCalls ref) (e.ListsColumns ref)
      (e.catalog.columns ref) ∧
    Answers ("constraints of " ++ ref.qualifiedName) (e.constraintCalls ref)
      (e.ListsConstraints ref) (e.catalog.constraints ref) ∧
    Answers ("definition of " ++ ref.qualifiedName) (e.definitionCalls ref)
      (fun text => e.definition ref.schemaName ref.name = .ok text) (e.catalog.definition ref) ∧
    Answers ("comment of " ++ ref.qualifiedName) (e.commentCalls ref)
      (fun text => e.comment ref.schemaName ref.name = .ok text) (e.catalog.comment ref) ∧
    Answers ("types in " ++ schemaName) (e.typeCalls schemaName) (e.ListsTypes schemaName)
      (e.catalog.types schemaName) :=
  ⟨relations_answers schemaName, columnRows_answers ref h, constraintRows_answers ref h,
    inspected_answers _ _, inspected_answers _ _, typeRows_answers schemaName h⟩

/-- A table that is kept in parts, and comments that cannot be read. -/
def Engine.shop : Engine where
  dialect := "postgresql"
  defaultSchema := some "public"
  connect := .ok ()
  inspect := .ok ()
  tableNames _ := .ok ["orders", "orders_2020"]
  viewNames _ := .ok ["totals"]
  materializedNames _ := .ok none
  partitions _ := .ok ["orders_2020"]
  columns _ _ := .ok [.obj [("name", .str "id"), ("type", .str "INTEGER"),
    ("nullable", .bool false)]]
  primaryKey _ _ := .ok (.obj [("constrained_columns", .arr [.str "id"])])
  foreignKeys _ _ := .ok [.obj [("constrained_columns", .arr [.str "id"]),
    ("referred_table", .str "customers"), ("referred_columns", .arr [.str "id"])]]
  definition _ _ := .ok (some "SELECT id FROM orders")
  comment _ _ := .error (.failed "gone")
  enumerations _ := .ok [.obj [("name", .str "mood"), ("labels", .arr [.str "ok"])]]
  domains _ := .ok [.obj [("name", .str "amount"), ("type", .str "NUMERIC")]]
  typeComments _ := .ok [("mood", some "How it goes")]

theorem Engine.shop_wellFormed : shop.WellFormed where
  columns h d hd := by
    cases h
    rw [List.mem_singleton.mp hd]
    exact ⟨⟨"id", rfl⟩, ⟨some "INTEGER", rfl⟩, ⟨none, rfl⟩⟩
  primaryKey h := by
    cases h
    exact ⟨⟨none, rfl⟩, ["id"], .inr rfl⟩
  foreignKeys h d hd := by
    cases h
    rw [List.mem_singleton.mp hd]
    exact ⟨⟨none, rfl⟩, ⟨["id"], rfl⟩, ⟨none, rfl⟩, ⟨some "customers", rfl⟩, ⟨["id"], rfl⟩, .inl rfl,
      ⟨none, rfl⟩, ⟨none, rfl⟩⟩
  enumerations h d hd := by
    cases h
    rw [List.mem_singleton.mp hd]
    exact ⟨⟨⟨"mood", rfl⟩, ⟨none, rfl⟩⟩, ["ok"], .inr rfl⟩
  domains h d hd := by
    cases h
    rw [List.mem_singleton.mp hd]
    exact ⟨⟨"amount", rfl⟩, ⟨none, rfl⟩⟩

theorem Engine.shop_answers :
    shop.catalog.comment ⟨"public", "orders", .table⟩ =
        .error (.unavailable "Catalog query failed (comment of public.orders): gone") ∧
      (∃ refs, shop.catalog.relations "public" = .ok refs ∧ shop.ListsRelations "public" refs) ∧
      ∃ rows, shop.catalog.types "public" = .ok rows ∧ shop.ListsTypes "public" rows := by
  obtain ⟨hrelations, -, -, -, hcomment, htypes⟩ :=
    catalog_answers shop_wellFormed "public" ⟨"public", "orders", .table⟩
  refine ⟨(hcomment.unavailable _).mpr ⟨"gone", rfl, ?_⟩, hrelations.answered rfl,
    htypes.answered rfl⟩
  decide

end SchemaLineage
