import SchemaLineage.Proofs.Text.Words
import SchemaLineage.Service.Server
/-
Where the path of a request leads.

The router cuts a path at its slashes and looks at the pieces.  Read backwards, each resource has
the path that one would write for it (`Target.resource?_of_path`) and no other but for a line break
that may follow a path without names (`Target.path_of_resource?`).  A path that leads somewhere is
never sent again without its last slashes.
-/

namespace SchemaLineage

/-- A name that can be written between two slashes. -/
def IsSegment (s : String) : Prop := s ≠ "" ∧ '/' ∉ s.toList

instance (s : String) : Decidable (IsSegment s) := inferInstanceAs (Decidable (_ ∧ _))

namespace Resource

/-- Whether the names of a resource can stand in its path. -/
def Named : Resource → Prop
  | connection serviceName => IsSegment serviceName
  | schema serviceName schemaName => IsSegment serviceName ∧ IsSegment schemaName
  | _ => True

/-- Whether a path has no names of clients in it. -/
def isFixed : Resource → Bool
  | connection _ => false
  | schema .. => false
  | _ => true

def segments : Resource → List String
  | health => ["api", "health"]
  | connections => ["api", "connections"]
  | connection serviceName => ["api", "connections", serviceName]
  | extraction => ["api", "extract"]
  | schema serviceName schemaName => ["api", "schemas", serviceName, schemaName]

/-- The path that one writes for a resource. -/
def path (r : Resource) : String := "/" ++ "/".intercalate r.segments

theorem path_eq (r : Resource) :
    r.path.toList = '/' :: ['/'].intercalate (r.segments.map String.toList) := by
  simp [path]

theorem path_connection (serviceName : String) :
    (connection serviceName).path = "/api/connections/" ++ serviceName := by
  apply String.toList_injective
  simp [path_eq, segments]

theorem path_schema (serviceName schemaName : String) :
    (schema serviceName schemaName).path = "/api/schemas/" ++ serviceName ++ "/" ++ schemaName := by
  apply String.toList_injective
  simp [path_eq, segments]

theorem not_mem_segments {r : Resource} (hr : r.Named) : ∀ s ∈ r.segments, '/' ∉ s.toList := by
  cases r with
  | connection serviceName =>
    have hname : '/' ∉ serviceName.toList := hr.2
    simp [segments, hname]
  | schema serviceName schemaName =>
    have hname : '/' ∉ serviceName.toList := hr.1.2
    have hschema : '/' ∉ schemaName.toList := hr.2.2
    simp [segments, hname, hschema]
  | _ => simp [segments]

theorem ofSegments?_segments {r : Resource} (hr : r.Named) :
    ofSegments? (r.segments.map String.toList) = some r := by
  cases r with
  | connection serviceName =>
    have hname : serviceName ≠ "" := hr.1
    simp [segments, ofSegments?, hname]
  | schema serviceName schemaName =>
    have hname : serviceName ≠ "" := hr.1.1
    have hschema : schemaName ≠ "" := hr.2.1
    simp [segments, ofSegments?, hname, hschema]
  | _ => simp [segments, ofSegments?, endsAs]

theorem eq_of_endsAs {b : List Char} {r : Resource} {word : String} (h : endsAs b word = true)
    (hr : r.isFixed = true) (hsegments : r.segments = ["api", word]) :
    ["api".toList, b] = r.segments.map String.toList ∨
      r.isFixed = true ∧ '/' :: ['/'].intercalate ["api".toList, b] = r.path.toList ++ ['\n'] := by
  rw [endsAs, Bool.or_eq_true, beq_iff_eq, beq_iff_eq] at h
  rcases h with rfl | rfl
  · exact .inl (by rw [hsegments]; rfl)
  · exact .inr ⟨hr, by rw [path_eq, hsegments]; simp⟩

/-- The pieces that lead to a resource are those of its path. -/
theorem eq_of_ofSegments? {ss : List (List Char)} {r : Resource} (h : ofSegments? ss = some r)
    (hss : ∀ s ∈ ss, '/' ∉ s) :
    r.Named ∧ (ss = r.segments.map String.toList ∨
      r.isFixed = true ∧ '/' :: ['/'].intercalate ss = r.path.toList ++ ['\n']) := by
  unfold ofSegments? at h
  split at h
  · rename_i a b
    by_cases ha : a = "api".toList
    · subst ha
      rw [if_neg (by simp)] at h
      split at h
      · rename_i hb
        cases h
        exact ⟨trivial, eq_of_endsAs hb rfl rfl⟩
      · split at h
        · rename_i hb
          cases h
          exact ⟨trivial, eq_of_endsAs hb rfl rfl⟩
        · split at h
          · rename_i hb
            cases h
            exact ⟨trivial, eq_of_endsAs hb rfl rfl⟩
          · cases h
    · rw [if_pos (by simpa using ha)] at h
      cases h
  · rename_i a b c
    split at h
    · rename_i hpieces
      cases h
      simp only [Bool.and_eq_true, beq_iff_eq, Bool.not_eq_true',
        List.isEmpty_eq_false_iff] at hpieces
      obtain ⟨⟨rfl, rfl⟩, hc⟩ := hpieces
      have hslash : '/' ∉ c := hss c (by simp)
      have hname : IsSegment (String.ofList c) := ⟨by simpa using hc, by simpa using hslash⟩
      exact ⟨hname, .inl (by simp [segments])⟩
    · cases h
  · rename_i a b c d
    split at h
    · rename_i hpieces
      cases h
      simp only [Bool.and_eq_true, beq_iff_eq, Bool.not_eq_true',
        List.isEmpty_eq_false_iff] at hpieces
      obtain ⟨⟨⟨rfl, rfl⟩, hc⟩, hd⟩ := hpieces
      have hslash : '/' ∉ c := hss c (by simp)
      have hslash' : '/' ∉ d := hss d (by simp)
      have hname : IsSegment (String.ofList c) := ⟨by simpa using hc, by simpa using hslash⟩
      have hschema : IsSegment (String.ofList d) := ⟨by simpa using hd, by simpa using hslash'⟩
      exact ⟨⟨hname, hschema⟩, .inl (by simp [segments])⟩
    · cases h
  · cases h

end Resource

open Text

namespace Target

theorem segments_of_path {t : Target} {ss : List (List Char)} (hne : ss ≠ [])
    (hss : ∀ s ∈ ss, '/' ∉ s) (h : t.path = '/' :: ['/'].intercalate ss) :
    t.segments = some ss := by
  rw [segments, h]
  show some (splitWhen (· == '/') (['/'].intercalate ss)) = some ss
  rw [splitWhen_eq_splitOnP]
  exact congrArg some (List.splitOn_intercalate '/' hss hne)

theorem path_of_segments {t : Target} {ss : List (List Char)} (h : t.segments = some ss) :
    (∀ s ∈ ss, '/' ∉ s) ∧ t.path = '/' :: ['/'].intercalate ss := by
  unfold segments at h
  split at h
  · rename_i cs hpath
    cases h
    constructor
    · intro s hs hslash
      have := not_of_mem_splitWhen hs '/' hslash
      simp at this
    · rw [hpath, splitWhen_eq_splitOnP]
      exact congrArg _ (List.intercalate_splitOn '/').symm
  · cases h

theorem resource?_of_path {t : Target} {r : Resource} (hr : r.Named) (h : t.path = r.path.toList) :
    t.resource? = some r := by
  have hsegments : t.segments = some (r.segments.map String.toList) := by
    refine segments_of_path ?_ ?_ (h.trans r.path_eq)
    · cases r <;> simp [Resource.segments]
    · intro s hs
      obtain ⟨name, hname, rfl⟩ := List.mem_map.mp hs
      exact Resource.not_mem_segments hr name hname
  rw [resource?, hsegments]
  exact Resource.ofSegments?_segments hr

theorem path_of_resource? {t : Target} {r : Resource} (h : t.resource? = some r) :
    r.Named ∧ (t.path = r.path.toList ∨ r.isFixed = true ∧ t.path = r.path.toList ++ ['\n']) := by
  obtain ⟨ss, hsegments, hss⟩ := Option.bind_eq_some_iff.mp h
  obtain ⟨hslash, hpath⟩ := path_of_segments hsegments
  obtain ⟨hr, hpieces⟩ := Resource.eq_of_ofSegments? hss hslash
  refine ⟨hr, ?_⟩
  rw [hpath]
  rcases hpieces with rfl | hbreak
  · exact .inl r.path_eq.symm
  · exact .inr hbreak

/-- A target that leads somewhere is answered as it was sent. -/
theorem settled_of_resource? {t : Target} {r : Resource} (h : t.resource? = some r) (n : Nat) :
    t.settled n = t := by
  cases n with
  | zero => rfl
  | succ n =>
    rw [settled, h]
    rfl

end Target

namespace Request

/-- What a request leads to, sent again without the slashes at the end of its path if that helps. -/
def resource? (q : Request) : Option Resource :=
  (q.target.settled q.target.path.length).resource?

theorem resource?_of_path {q : Request} {r : Resource} (hr : r.Named)
    (h : q.target.path = r.path.toList) : q.resource? = some r := by
  have ht := Target.resource?_of_path hr h
  rw [resource?, Target.settled_of_resource? ht]
  exact ht

end Request

/-! ## What is done at the end of the path -/

namespace Service

variable {s : Service} {r : Registry} {q : Request}

theorem respond_health (hq : q.resource? = some .health) (hm : q.method = .get) :
    s.respond r q = (s.health r, r) := by
  rw [Request.resource?] at hq
  simp only [respond, hq, hm]

theorem respond_listing (hq : q.resource? = some .connections) (hm : q.method = .get) :
    s.respond r q = (listing r, r) := by
  rw [Request.resource?] at hq
  simp only [respond, hq, hm]

theorem respond_registration (hq : q.resource? = some .connections) (hm : q.method = .post) :
    s.respond r q = s.registration r q := by
  rw [Request.resource?] at hq
  simp only [respond, hq, hm]

theorem respond_removal {serviceName : String} (hq : q.resource? = some (.connection serviceName))
    (hm : q.method = .delete) : s.respond r q = removal r serviceName := by
  rw [Request.resource?] at hq
  simp only [respond, hq, hm]

/-- The parameters of a target that is sent again are those of the last target sent. -/
theorem respond_schema {serviceName schemaName : String}
    (hq : q.target.resource? = some (.schema serviceName schemaName)) (hm : q.method = .get) :
    s.respond r q = (s.registeredExtraction r q.target serviceName schemaName, r) := by
  simp only [respond, Target.settled_of_resource? hq, hq, hm]

/-- Only registrations and removals can change the registry. -/
theorem respond_snd (hpost : ¬(q.resource? = some .connections ∧ q.method = .post))
    (hdelete : ∀ serviceName,
      ¬(q.resource? = some (.connection serviceName) ∧ q.method = .delete)) :
    (s.respond r q).2 = r := by
  rw [Request.resource?] at hpost hdelete
  unfold respond
  simp only
  split
  case h_4 hq hm => exact absurd ⟨hq, hm⟩ hpost
  case h_5 name hq hm => exact absurd ⟨hq, hm⟩ (hdelete name)
  all_goals rfl

theorem unreachable_status (f : ConnectFault) :
    (unreachable f).status = 400 ∨ (unreachable f).status = 500 := by
  cases f with
  | failed text => exact .inl rfl
  | other text => exact .inr rfl

/-- A registration succeeds or leaves everything as it was. -/
theorem registration_cases (s : Service) (r : Registry) (q : Request) :
    (∃ c, q.message Connection.ofMessage = .ok c ∧ (s.databaseAt c.url).connect = .ok () ∧
        s.registration r q = (⟨201, (Registered.ofConnection c).toJson⟩, r.register c)) ∨
      ((s.registration r q).1.status = 400 ∨ (s.registration r q).1.status = 500 ∨
          (s.registration r q).1.status = 422) ∧
        (s.registration r q).2 = r := by
  unfold registration
  cases q.message Connection.ofMessage with
  | faulty fs => exact .inr ⟨.inr (.inr rfl), rfl⟩
  | ok c =>
    cases hconnect : (s.databaseAt c.url).connect with
    | error f =>
      refine .inr ⟨?_, by simp [hconnect]⟩
      simp only [hconnect]
      exact or_assoc.mp (.inl (unreachable_status f))
    | ok _ => exact .inl ⟨c, rfl, hconnect, by simp [hconnect]⟩

theorem removal_of_none {serviceName : String} (h : r.find? serviceName = none) :
    (removal r serviceName).1.status = 404 ∧ (removal r serviceName).2 = r := by
  rw [removal, h]
  exact ⟨rfl, rfl⟩

theorem removal_of_some {serviceName : String} {c : Connection} (h : r.find? serviceName = some c) :
    (removal r serviceName).1.status = 200 ∧
      (removal r serviceName).2 = r.remove serviceName := by
  rw [removal, h]
  exact ⟨rfl, rfl⟩

/-- A parameter that is left out or says yes or no is understood. -/
theorem resolveParameter_ok {t : Target}
    (h : ∀ v, t.parameter? "resolve_views" = some v → (Shape.truthOfText? v).isSome) :
    ∃ resolveViews, resolveParameter t = .ok resolveViews := by
  unfold resolveParameter
  cases hv : t.parameter? "resolve_views" with
  | none => exact ⟨none, rfl⟩
  | some v =>
    obtain ⟨b, hb⟩ := Option.isSome_iff_exists.mp (h v hv)
    refine ⟨some b, ?_⟩
    simp only [Shape.truth, hb]
    rfl

/-- An extraction never says that something was not found. -/
theorem extraction_status_ne (s : Service) (c : Connection) (schemaName : Option String)
    (resolveViews : Option Bool) : (s.extraction c schemaName resolveViews).status ≠ 404 := by
  have herror : ∀ e : ExtractionError, e.status ≠ 404 := by
    intro e
    unfold ExtractionError.status
    split <;> decide
  simp only [extraction]
  split
  · rename_i f _
    have hstatus := unreachable_status f
    omega
  · split
    · simp
    · exact herror _

end Service

end SchemaLineage
