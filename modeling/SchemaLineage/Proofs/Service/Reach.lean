import SchemaLineage.Proofs.Service.Registrations
import SchemaLineage.Proofs.Text.Escapes
/-
Which of the names that can be registered a path leads to.

A connection is registered under any name that comes with it.  To be read or removed it has to be
named in a path, and there a name is what stands between two slashes.  So a name that is empty or
has a slash in it (`IsSegment` says what is left) is kept under and never found: one request can add
a connection, take one out that a path leads to, or change nothing (`respond_cases`), and hence such
a name stays whatever is asked for later (`isSome_after`).
-/

namespace SchemaLineage

open Text

namespace Registry

theorem find?_remove_of_ne (r : Registry) {name other : String} (h : name ≠ other) :
    (r.remove other).find? name = r.find? name :=
  lookup_filter (fun _ => by simpa using h) r

theorem remove_register (r : Registry) (c : Connection) :
    (r.register c).remove c.serviceName = r.remove c.serviceName := by
  unfold register remove
  induction r with
  | nil => simp [upsert]
  | cons e r ih =>
    obtain ⟨name, d⟩ := e
    by_cases h : name = c.serviceName
    · simp [upsert, h]
    · simp [upsert, h, ih]

end Registry

namespace Service

variable {s : Service} {r : Registry} {q : Request}

/-- All that a request can do to the registry. -/
theorem respond_cases (s : Service) (r : Registry) (q : Request) :
    (∃ c, (s.respond r q).2 = r.register c) ∨
      (∃ name, IsSegment name ∧ (s.respond r q).2 = r.remove name) ∨ (s.respond r q).2 = r := by
  by_cases hpost : q.resource? = some .connections ∧ q.method = .post
  · rw [respond_registration hpost.1 hpost.2]
    rcases s.registration_cases r q with ⟨c, -, -, h⟩ | ⟨-, h⟩
    · exact .inl ⟨c, by rw [h]⟩
    · exact .inr (.inr h)
  by_cases hdelete : ∃ name, q.resource? = some (.connection name) ∧ q.method = .delete
  · obtain ⟨name, hq, hm⟩ := hdelete
    have hname : IsSegment name := (Target.path_of_resource? hq).1
    rw [respond_removal hq hm]
    cases hfind : r.find? name with
    | none => exact .inr (.inr (removal_of_none hfind).2)
    | some c => exact .inr (.inl ⟨name, hname, (removal_of_some hfind).2⟩)
  · exact .inr (.inr (respond_snd hpost (not_exists.mp hdelete)))

theorem isSome_find?_respond {name : String} (hname : ¬ IsSegment name)
    (h : (r.find? name).isSome) : ((s.respond r q).2.find? name).isSome := by
  rcases s.respond_cases r q with ⟨c, hr⟩ | ⟨other, hother, hr⟩ | hr
  · rw [hr]
    by_cases hc : name = c.serviceName
    · rw [hc, Registry.find?_register_self]
      rfl
    · rwa [Registry.find?_register_of_ne hc]
  · have hne : name ≠ other := by
      rintro rfl
      exact hname hother
    rwa [hr, Registry.find?_remove_of_ne r hne]
  · rwa [hr]

end Service

/-- What no path leads to stays, whatever is asked for. -/
theorem Registry.isSome_after {r : Registry} {name : String} (hname : ¬ IsSegment name)
    (h : (r.find? name).isSome) (arrivals : List (Service × Request)) :
    ((r.after arrivals).find? name).isSome := by
  induction arrivals generalizing r with
  | nil => exact h
  | cons arrival arrivals ih => exact ih (Service.isSome_find?_respond hname h)

/-! ## Paths with a name in them -/

theorem Resource.ofSegments?_eq_none {ss : List (List Char)} (h : 4 < ss.length) :
    ofSegments? ss = none := by
  unfold ofSegments?
  split
  · simp at h
  · simp at h
  · simp at h
  · rfl

namespace Target

variable {t : Target} {name schemaName : String}

theorem settled_of_trimmed (h : t.trimmed = t) (n : Nat) : t.settled n = t := by
  cases n with
  | zero => rfl
  | succ n =>
    rw [settled, h, if_pos]
    cases t.resource? <;> rfl

/-- The path of a schema does not end with a slash. -/
theorem trimmed_of_path (hschema : IsSegment schemaName)
    (h : t.path = ("/api/schemas/" ++ name ++ "/" ++ schemaName).toList) : t.trimmed = t := by
  obtain ⟨l, c, hlast⟩ : ∃ l c, schemaName.toList = l ++ [c] := by
    refine ⟨_, _, (List.dropLast_append_getLast ?_).symm⟩
    exact fun hnil => hschema.1 (String.toList_eq_nil_iff.mp hnil)
  have hc : c ≠ '/' := by
    rintro rfl
    exact hschema.2 (by rw [hlast]; simp)
  have hpath : t.path = ("/api/schemas/" ++ name ++ "/").toList ++ l ++ [c] := by
    rw [h, String.toList_append, hlast, List.append_assoc]
  have hreverse : (t.path.reverse.dropWhile (· == '/')).reverse = t.path := by
    rw [hpath, List.reverse_append, List.reverse_singleton, List.singleton_append,
      List.dropWhile_cons_of_neg (by simpa using hc), List.reverse_cons, List.reverse_reverse]
  unfold trimmed
  rw [hreverse]

/-- A name that is no single piece of a path makes too many pieces, or an empty one. -/
theorem resource?_of_not_segment (hname : ¬ IsSegment name) (hschema : IsSegment schemaName)
    (h : t.path = ("/api/schemas/" ++ name ++ "/" ++ schemaName).toList) : t.resource? = none := by
  have hpieces : t.segments = some (["api".toList, "schemas".toList] ++
      (splitWhen (· == '/') name.toList ++ [schemaName.toList])) := by
    have hpath : t.path = '/' :: ("api/schemas".toList ++ '/' ::
        (name.toList ++ '/' :: schemaName.toList)) := by
      rw [h]
      simp
    have hwhole : splitWhen (· == '/') schemaName.toList = [schemaName.toList] := by
      rw [splitWhen_eq_splitOnP, List.splitOnP_eq_singleton]
      intro c hc
      rw [beq_eq_false_iff_ne]
      rintro rfl
      exact hschema.2 hc
    rw [segments, hpath]
    show some (splitWhen (· == '/') ("api/schemas".toList ++ '/' ::
      (name.toList ++ '/' :: schemaName.toList))) = _
    rw [splitWhen_append_cons rfl, splitWhen_append_cons rfl, hwhole]
    rfl
  rw [resource?, hpieces]
  by_cases hempty : name = ""
  · subst hempty
    rfl
  · obtain ⟨a, b, hcut⟩ : ∃ a b, name.toList = a ++ '/' :: b :=
      List.append_of_mem (Decidable.not_not.mp fun hslash => hname ⟨hempty, hslash⟩)
    have ha := List.length_pos_iff.mpr (splitWhen_ne_nil (· == '/') a)
    have hb := List.length_pos_iff.mpr (splitWhen_ne_nil (· == '/') b)
    refine Resource.ofSegments?_eq_none ?_
    rw [hcut, splitWhen_append_cons rfl]
    simp only [List.length_append, List.length_cons, List.length_nil]
    omega

end Target

/-- A request for a schema of the connection whose name is written like this. -/
def Request.reading (written schemaName : String) : Request :=
  { method := .get
    target := .ofText ("/api/schemas/" ++ written ++ "/" ++ schemaName).toList }

namespace Service

variable {s : Service} {r : Registry} {name written : String}

theorem respond_nowhere {q : Request} (hq : q.resource? = none) :
    s.respond r q = (.notFound, r) := by
  rw [Request.resource?] at hq
  simp only [respond, hq]

theorem target_reading (h : Escaped name.toList written.toList) :
    (Request.reading written "main").target =
      ⟨("/api/schemas/" ++ name ++ "/" ++ "main").toList, []⟩ := by
  refine ofText_of_escaped ?_
  simp only [String.toList_append]
  exact (((escaped_self (by decide)).append h).append (escaped_self (by decide))).append
    (escaped_self (by decide))

theorem target_removing (h : Escaped name.toList written.toList) :
    (Request.removing written).target = ⟨("/api/connections/" ++ name).toList, []⟩ := by
  refine ofText_of_escaped ?_
  simp only [String.toList_append]
  exact (escaped_self (by decide)).append h

theorem respond_reading {c : Connection} (hname : IsSegment name)
    (hwritten : Escaped name.toList written.toList) (hfind : r.find? name = some c) :
    s.respond r (.reading written "main") = (s.extraction c (some "main") none, r) := by
  have htarget := target_reading hwritten
  have hq : (Request.reading written "main").target.resource? = some (.schema name "main") := by
    refine Target.resource?_of_path (r := .schema name "main") ⟨hname, by decide⟩ ?_
    rw [htarget, Resource.path_schema]
  have hresolve : resolveParameter (Request.reading written "main").target = .ok none := by
    rw [htarget]
    rfl
  rw [respond_schema hq rfl, registeredExtraction, hresolve]
  simp only [hfind]

theorem respond_removing {c : Connection} (hname : IsSegment name)
    (hwritten : Escaped name.toList written.toList) (hfind : r.find? name = some c) :
    (s.respond r (.removing written)).1.status = 200 ∧
      (s.respond r (.removing written)).2 = r.remove name := by
  have hq : (Request.removing written).resource? = some (.connection name) := by
    refine Request.resource?_of_path (r := .connection name) hname ?_
    rw [target_removing hwritten, Resource.path_connection]
  rw [respond_removal hq rfl]
  exact removal_of_some hfind

theorem respond_reading_nowhere (hname : ¬ IsSegment name)
    (hwritten : Escaped name.toList written.toList) :
    s.respond r (.reading written "main") = (.notFound, r) := by
  have hpath : (Request.reading written "main").target.path =
      ("/api/schemas/" ++ name ++ "/" ++ "main").toList := by
    rw [target_reading hwritten]
  refine respond_nowhere ?_
  rw [Request.resource?, Target.settled_of_trimmed (Target.trimmed_of_path (by decide) hpath)]
  exact Target.resource?_of_not_segment hname (by decide) hpath

end Service

/-- A connection that was registered is read and removed through its name, however this is escaped,
if a path can lead to the name.  If none can, the connection is not found and stays. -/
theorem Registry.registered_reach (r : Registry) {s : Service} {q : Request} {name written : String}
    (hq : q.resource? = some .connections) (hm : q.method = .post)
    (hstatus : (s.respond r q).1.status = 201)
    (hname : ((s.respond r q).1.body.get? "service_name").bind Json.string? = some name)
    (hwritten : Escaped name.toList written.toList) :
    ∃ c, q.message Connection.ofMessage = .ok c ∧ (s.respond r q).2.find? name = some c ∧
      (IsSegment name → ∀ s' : Service,
        s'.respond (s.respond r q).2 (.reading written "main") =
          (s'.extraction c (some "main") none, (s.respond r q).2) ∧
        (s'.respond (s.respond r q).2 (.reading written "main")).1.status ≠ 404 ∧
        (s'.respond (s.respond r q).2 (.removing written)).1.status = 200 ∧
        (s'.respond (s.respond r q).2 (.removing written)).2 = r.remove name) ∧
      (¬ IsSegment name →
        (∀ s' : Service,
          (s'.respond (s.respond r q).2 (.reading written "main")).1.status = 404) ∧
        ∀ later, (((s.respond r q).2.after later).find? name).isSome) := by
  rw [Service.respond_registration hq hm] at hstatus hname ⊢
  rcases s.registration_cases r q with ⟨c, hc, -, hkept⟩ | ⟨hrefused, -⟩
  · rw [hkept] at hname ⊢
    obtain rfl : c.serviceName = name := Option.some.inj hname
    have hfind : (r.register c).find? c.serviceName = some c := find?_register_self r c
    refine ⟨c, hc, hfind, fun hsegment s' => ?_, fun hsegment => ⟨fun s' => ?_, fun later => ?_⟩⟩
    · obtain ⟨hremoved, hleft⟩ := Service.respond_removing (s := s') hsegment hwritten hfind
      rw [Service.respond_reading hsegment hwritten hfind]
      refine ⟨rfl, s'.extraction_status_ne c _ _, hremoved, ?_⟩
      rw [hleft, remove_register]
    · rw [Service.respond_reading_nowhere hsegment hwritten]
      rfl
    · exact isSome_after hsegment (by rw [hfind]; rfl) later
  · omega

/-- A name with a letter of two bytes, and with marks that would end the path. -/
theorem Registry.oddName_reach :
    let s := Service.bare (.ok ())
    let registered := s.respond [] (.registering "käse?#" "f")
    IsSegment "käse?#" ∧ registered.1.status = 201 ∧ registered.2.names = ["käse?#"] ∧
      (s.respond registered.2 (.reading "k%c3%a4se%3f%23" "main")).1.status ≠ 404 ∧
      (s.respond registered.2 (.removing "k%c3%a4se%3f%23")).1.status = 200 ∧
      (s.respond registered.2 (.removing "k%c3%a4se%3f%23")).2 = [] := by
  intro s registered
  have hsegment : IsSegment "käse?#" := by decide
  have hencoded : percentEncoded "käse?#".toList = "k%c3%a4se%3f%23".toList := by decide +kernel
  have hwritten := hencoded ▸ escaped_percentEncoded "käse?#".toList
  obtain ⟨c, -, -, hreached, -⟩ := registered_reach [] (s := s) (q := .registering "käse?#" "f")
    (by decide +kernel) rfl (by decide +kernel) (by decide +kernel) hwritten
  obtain ⟨-, hfound, hremoved, hleft⟩ := hreached hsegment s
  exact ⟨hsegment, by decide +kernel, by decide +kernel, hfound, hremoved, hleft⟩

/-- A name with a slash in it is accepted, and then neither found nor removed. -/
theorem Registry.slashedName_unreached :
    let s := Service.bare (.ok ())
    let registered := s.respond [] (.registering "a/b" "f")
    Escaped "a/b".toList "a%2fb".toList ∧ registered.1.status = 201 ∧
      (s.respond registered.2 (.reading "a%2fb" "main")).1.status = 404 ∧
      (s.respond registered.2 (.removing "a%2fb")).1.status = 404 ∧
      (s.respond registered.2 (.removing "a%2fb")).2.names = ["a/b"] := by
  have hencoded : percentEncoded "a/b".toList = "a%2fb".toList := by decide +kernel
  exact ⟨hencoded ▸ escaped_percentEncoded "a/b".toList, by decide +kernel⟩

end SchemaLineage
