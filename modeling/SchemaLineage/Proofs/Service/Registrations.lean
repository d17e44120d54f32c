import SchemaLineage.Proofs.Service.Routing
/-
The registry as a history of requests and answers.

Which connections are kept, and in which order, can be told from the requests and the status of each
answer alone: a registration that is answered with 201 puts its connection in the place of the one
of that name or else behind the others, and a removal that is answered with 200 takes one out
(`Exchange.keep`).  One request changes the registry in just that way (`respond_ofKept`), so a run
of any length does (`after_ofKept`), whatever the databases do meanwhile.
-/

namespace SchemaLineage

/-- A request and the answer to it. -/
structure Exchange where
  request : Request
  response : Response

/-- A connection among those that are kept: in the place of the one of its name, or else last. -/
def Connection.putInto (c : Connection) (kept : List Connection) : List Connection :=
  if c.serviceName ∈ kept.map (·.serviceName) then
    kept.map fun d => if d.serviceName = c.serviceName then c else d
  else kept ++ [c]

/-- The connections that are kept after an exchange. -/
def Exchange.keep (kept : List Connection) (x : Exchange) : List Connection :=
  match x.request.resource?, x.request.method, x.response.status with
  | some .connections, .post, 201 =>
    match x.request.message Connection.ofMessage with
    | .ok c => c.putInto kept
    | .faulty _ => kept
  | some (.connection serviceName), .delete, 200 =>
    kept.filter fun c => c.serviceName ≠ serviceName
  | _, _, _ => kept

namespace Exchange

variable {kept : List Connection} {q : Request} {a : Response}

theorem keep_registered {c : Connection} (hq : q.resource? = some .connections)
    (hm : q.method = .post) (hstatus : a.status = 201)
    (hc : q.message Connection.ofMessage = .ok c) : keep kept ⟨q, a⟩ = c.putInto kept := by
  simp only [keep, hq, hm, hstatus, hc]

theorem keep_removed {serviceName : String} (hq : q.resource? = some (.connection serviceName))
    (hm : q.method = .delete) (hstatus : a.status = 200) :
    keep kept ⟨q, a⟩ = kept.filter fun c => c.serviceName ≠ serviceName := by
  simp only [keep, hq, hm, hstatus]

theorem keep_refused (hcreated : a.status ≠ 201) (hok : a.status ≠ 200) :
    keep kept ⟨q, a⟩ = kept := by
  unfold keep
  split
  case h_1 hstatus => exact absurd hstatus hcreated
  case h_2 hstatus => exact absurd hstatus hok
  case h_3 => rfl

/-- What is neither a registration nor a removal does not count, whatever its answer. -/
theorem keep_other (hpost : ¬(q.resource? = some .connections ∧ q.method = .post))
    (hdelete : ∀ serviceName,
      ¬(q.resource? = some (.connection serviceName) ∧ q.method = .delete)) :
    keep kept ⟨q, a⟩ = kept := by
  unfold keep
  split
  case h_1 hq hm _ => exact absurd ⟨hq, hm⟩ hpost
  case h_2 name hq hm _ => exact absurd ⟨hq, hm⟩ (hdelete name)
  case h_3 => rfl

end Exchange

namespace Registry

/-- The registry in which the given connections are kept. -/
def ofKept (kept : List Connection) : Registry := kept.map fun c => (c.serviceName, c)

/-- The registry after requests that come one after another, each with the service that answers it:
the settings and the databases need not stay the same. -/
def after : Registry → List (Service × Request) → Registry
  | r, [] => r
  | r, (s, q) :: arrivals => after (s.respond r q).2 arrivals

/-- The requests with their answers. -/
def exchanges : Registry → List (Service × Request) → List Exchange
  | _, [] => []
  | r, (s, q) :: arrivals => ⟨q, (s.respond r q).1⟩ :: exchanges (s.respond r q).2 arrivals

/-- The answers to requests that come one after another are those of the exchanges. -/
theorem respondAll_eq (s : Service) (r : Registry) (qs : List Request) :
    s.respondAll r qs = (r.exchanges (qs.map fun q => (s, q))).map (·.response) := by
  induction qs generalizing r with
  | nil => rfl
  | cons q qs ih => exact congrArg (_ :: ·) (ih (s.respond r q).2)

/-! ## Connections that are kept under their names -/

theorem names_ofKept (kept : List Connection) : (ofKept kept).names = kept.map (·.serviceName) := by
  simp [ofKept, names]

theorem find?_ofKept (kept : List Connection) (name : String) :
    (ofKept kept).find? name = kept.find? fun c => c.serviceName = name := by
  have hfind := lookup_map_eq_find? Connection.serviceName (fun c => c) kept name
  rwa [Option.map_id'] at hfind

theorem find?_ofKept_eq_none {kept : List Connection} {name : String} :
    (ofKept kept).find? name = none ↔ name ∉ kept.map (·.serviceName) := by
  rw [find?_ofKept, List.find?_eq_none]
  simp

theorem remove_ofKept (kept : List Connection) (name : String) :
    (ofKept kept).remove name = ofKept (kept.filter fun c => c.serviceName ≠ name) := by
  rw [remove, ofKept, ofKept, List.filter_map]
  refine congrArg _ (List.filter_congr fun c _ => ?_)
  by_cases hc : c.serviceName = name <;> simp [hc]

section

variable {kept : List Connection} (h : (kept.map (·.serviceName)).Nodup)

include h

/-- As no name comes twice, what stands in the place of one name is one connection. -/
theorem register_ofKept (c : Connection) :
    (ofKept kept).register c = ofKept (c.putInto kept) := by
  by_cases hc : c.serviceName ∈ kept.map (·.serviceName)
  · rw [Connection.putInto, if_pos hc]
    induction kept with
    | nil => simp at hc
    | cons d kept ih =>
      rw [List.map_cons, List.nodup_cons] at h
      rw [List.map_cons, List.mem_cons] at hc
      rw [register, ofKept, List.map_cons, upsert, List.map_cons, ofKept, List.map_cons]
      by_cases hd : d.serviceName = c.serviceName
      · have hrest : (kept.map fun e => if e.serviceName = c.serviceName then c else e) = kept := by
          refine (List.map_congr_left fun e he => ?_).trans (List.map_id' kept)
          refine if_neg fun heq => h.1 ?_
          rw [hd, ← heq]
          exact List.mem_map_of_mem he
        rw [if_pos (by simpa using hd), if_pos hd, hrest]
      · have hmem := hc.resolve_left (Ne.symm hd)
        rw [if_neg (by simpa using hd), if_neg hd]
        exact congrArg _ (ih h.2 hmem)
  · rw [Connection.putInto, if_neg hc, register, upsert_of_not_mem (by rwa [← names_ofKept] at hc)]
    simp [ofKept]

theorem nodup_putInto (c : Connection) : ((c.putInto kept).map (·.serviceName)).Nodup := by
  rw [← names_ofKept, ← register_ofKept h]
  exact nodup_names_register (by rwa [names_ofKept]) c

theorem nodup_keep (x : Exchange) : ((Exchange.keep kept x).map (·.serviceName)).Nodup := by
  unfold Exchange.keep
  split
  · split
    · exact nodup_putInto h _
    · exact h
  · exact (List.filter_sublist.map _).nodup h
  · exact h

/-! ## One request, and a run of them -/

/-- A request changes what is kept as its answer tells. -/
theorem respond_ofKept (s : Service) (q : Request) :
    (s.respond (ofKept kept) q).2 =
      ofKept (Exchange.keep kept ⟨q, (s.respond (ofKept kept) q).1⟩) := by
  by_cases hpost : q.resource? = some .connections ∧ q.method = .post
  · obtain ⟨hq, hm⟩ := hpost
    rw [Service.respond_registration hq hm]
    rcases s.registration_cases (ofKept kept) q with ⟨c, hc, _, hkept⟩ | ⟨hstatus, hleft⟩
    · rw [hkept, Exchange.keep_registered hq hm rfl hc]
      exact register_ofKept h c
    · rw [hleft, Exchange.keep_refused (by omega) (by omega)]
  · by_cases hdelete : ∃ serviceName,
        q.resource? = some (.connection serviceName) ∧ q.method = .delete
    · obtain ⟨serviceName, hq, hm⟩ := hdelete
      rw [Service.respond_removal hq hm]
      cases hfind : (ofKept kept).find? serviceName with
      | none =>
        obtain ⟨hstatus, hleft⟩ := Service.removal_of_none hfind
        rw [hleft, Exchange.keep_refused (by omega) (by omega)]
      | some c =>
        obtain ⟨hstatus, hremoved⟩ := Service.removal_of_some hfind
        rw [hremoved, Exchange.keep_removed hq hm hstatus, remove_ofKept]
    · have hother := not_exists.mp hdelete
      rw [Service.respond_snd hpost hother, Exchange.keep_other hpost hother]

/-- After a run the registry holds what its requests and answers tell, in their order. -/
theorem after_ofKept (arrivals : List (Service × Request)) :
    (ofKept kept).after arrivals =
        ofKept (((ofKept kept).exchanges arrivals).foldl Exchange.keep kept) ∧
      ((((ofKept kept).exchanges arrivals).foldl Exchange.keep kept).map
        (·.serviceName)).Nodup := by
  induction arrivals generalizing kept with
  | nil => exact ⟨rfl, h⟩
  | cons arrival arrivals ih =>
    obtain ⟨s, q⟩ := arrival
    rw [after, exchanges, List.foldl_cons, respond_ofKept h]
    exact ih (nodup_keep h _)

end

/-! ## What clients see of it -/

/-- What clients see of a registry that keeps the given connections, in this order. -/
structure Shows (r : Registry) (kept : List Connection) : Prop where
  stored : r = ofKept kept
  nodup_names : (kept.map (·.serviceName)).Nodup
  /-- The port, the user and the password of a connection are not listed. -/
  listing : ∀ (s : Service) (q : Request), q.method = .get →
    q.target.path = "/api/connections".toList →
    (s.respond r q).1 = ⟨200, .obj [("connections", .arr (kept.map fun c => .obj
      [("service_name", .str c.serviceName), ("db_type", .str c.kind.word),
        ("host", Json.text? c.host), ("database", Json.text? c.database),
        ("file_path", Json.text? c.filePath), ("status", .str "connected")]))]⟩
  /-- The count is the length of the list. -/
  health : ∀ (s : Service) (q : Request), q.method = .get → q.target.path = "/api/health".toList →
    (s.respond r q).1.status = 200 ∧
      (s.respond r q).1.body.get? "connections" = some (.int kept.length)
  removal : ∀ (s : Service) (q : Request) (name : String), IsSegment name → q.method = .delete →
    q.target.path = ("/api/connections/" ++ name).toList →
    ((s.respond r q).1.status = 404 ↔ name ∉ kept.map (·.serviceName))
  /-- A parameter that says neither yes nor no is refused before any name is looked up. -/
  schema : ∀ (s : Service) (q : Request) (name schemaName : String), IsSegment name →
    IsSegment schemaName → q.method = .get →
    q.target.path = ("/api/schemas/" ++ name ++ "/" ++ schemaName).toList →
    (∀ v, q.target.parameter? "resolve_views" = some v → (Shape.truthOfText? v).isSome) →
    ((s.respond r q).1.status = 404 ↔ name ∉ kept.map (·.serviceName))

theorem shows_ofKept {kept : List Connection} (h : (kept.map (·.serviceName)).Nodup) :
    (ofKept kept).Shows kept where
  stored := rfl
  nodup_names := h
  listing s q hm hpath := by
    have hq := Request.resource?_of_path (r := .connections) trivial (hpath.trans (by decide))
    rw [Service.respond_listing hq hm, Service.listing]
    simp [entries, ofKept, ConnectionEntry.ofConnection, ConnectionEntry.toJson, Function.comp_def]
  health s q hm hpath := by
    have hq := Request.resource?_of_path (r := .health) trivial (hpath.trans (by decide))
    rw [Service.respond_health hq hm, Service.health]
    exact ⟨rfl, by simp [Json.get?, List.lookup_cons, ofKept]⟩
  removal s q name hname hm hpath := by
    have hq := Request.resource?_of_path (r := .connection name) hname
      (by rw [hpath, Resource.path_connection])
    rw [Service.respond_removal hq hm, ← find?_ofKept_eq_none]
    cases hfind : (ofKept kept).find? name with
    | none => simp [Service.removal_of_none hfind]
    | some c => simp [Service.removal_of_some hfind]
  schema s q name schemaName hname hschema hm hpath hparameter := by
    have hq := Target.resource?_of_path (r := .schema name schemaName) ⟨hname, hschema⟩
      (by rw [hpath, Resource.path_schema])
    obtain ⟨resolveViews, hresolve⟩ := Service.resolveParameter_ok hparameter
    rw [Service.respond_schema hq hm, Service.registeredExtraction, hresolve,
      ← find?_ofKept_eq_none]
    cases (ofKept kept).find? name with
    | none => simp [Response.detail]
    | some c => simpa using s.extraction_status_ne c schemaName resolveViews

/-- Whatever was asked before, clients see the connections that the requests and their answers
tell. -/
theorem shows_history (arrivals : List (Service × Request)) :
    (after [] arrivals).Shows ((exchanges [] arrivals).foldl Exchange.keep []) := by
  have hnil : (([] : List Connection).map (·.serviceName)).Nodup := List.nodup_nil
  obtain ⟨hafter, hnodup⟩ := after_ofKept hnil arrivals
  have hshows := shows_ofKept hnodup
  rwa [← hafter] at hshows

end Registry

/-- A database without relations that can or cannot be opened. -/
def Engine.bare (connect : Except ConnectFault Unit) : Engine :=
  { dialect := "sqlite"
    connect := connect
    inspect := .ok ()
    tableNames := fun _ => .ok []
    viewNames := fun _ => .ok []
    materializedNames := fun _ => .ok none
    partitions := fun _ => .ok []
    columns := fun _ _ => .ok []
    primaryKey := fun _ _ => .ok .null
    foreignKeys := fun _ _ => .ok []
    definition := fun _ _ => .ok none
    comment := fun _ _ => .ok none
    enumerations := fun _ => .ok []
    domains := fun _ => .ok []
    typeComments := fun _ => .ok [] }

def Service.bare (connect : Except ConnectFault Unit) : Service :=
  { settings := {}, databaseAt := fun _ => .bare connect }

def Request.registering (name file : String) : Request :=
  { method := .post
    target := .ofText "/api/connections".toList
    body := some ("\x7b\"db_type\":\"sqlite\",\"service_name\":\"" ++ name ++
      "\",\"file_path\":\"" ++ file ++ "\"\x7d") }

def Request.removing (name : String) : Request :=
  { method := .delete, target := .ofText ("/api/connections/" ++ name).toList }

/-- A registration that tells all that a connection can have beside a file. -/
def Request.registeringShop : Request :=
  { method := .post
    target := .ofText "/api/connections".toList
    body := some ("\x7b\"db_type\": \"postgresql\", \"service_name\": \"b\", \"host\": \"db\"," ++
      "\"port\": 5433, \"database\": \"shop\", \"username\": \"ann\", \"password\": \"x\"\x7d") }

/-- Two names, of which the first is given another file when the database lets in at last. -/
def Registry.renewal : List (Service × Request) :=
  [(.bare (.ok ()), .registering "a" "old"), (.bare (.ok ()), .registeringShop),
    (.bare (.error (.failed "locked")), .registering "a" "new"),
    (.bare (.error (.other "no such option")), .registering "a" "new"),
    (.bare (.ok ()), .registering "a" "new"), (.bare (.ok ()), .removing "c")]

def Registry.renewed : List Connection :=
  [{ kind := .sqlite, serviceName := "a", filePath := some "new" },
    { kind := .postgresql, serviceName := "b", host := some "db", port := some 5433,
      database := some "shop", username := some "ann", password := some "x" }]

theorem Registry.renewal_history :
    (exchanges [] renewal).map (·.response.status) = [201, 201, 400, 500, 201, 404] ∧
      (after [] renewal).Shows renewed ∧
      ((Service.bare (.ok ())).respond (after [] renewal)
          { method := .get, target := .ofText "/api/connections".toList }).1.body =
        .obj [("connections", .arr
          [.obj [("service_name", .str "a"), ("db_type", .str "sqlite"), ("host", .null),
              ("database", .null), ("file_path", .str "new"), ("status", .str "connected")],
            .obj [("service_name", .str "b"), ("db_type", .str "postgresql"), ("host", .str "db"),
              ("database", .str "shop"), ("file_path", .null),
              ("status", .str "connected")]])] := by
  have hrun : (exchanges [] renewal).map (·.response.status) = [201, 201, 400, 500, 201, 404] ∧
      (exchanges [] renewal).foldl Exchange.keep [] = renewed := by decide +kernel
  have hshows := shows_history renewal
  rw [hrun.2] at hshows
  refine ⟨hrun.1, hshows, ?_⟩
  rw [hshows.listing _ _ rfl (by decide +kernel)]
  rfl

end SchemaLineage
