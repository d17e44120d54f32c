import SchemaLineage.Proofs.Extraction.Listing
/-
How a pass ends.

A question to the catalog that fails ends the pass, and of several that fail the first one counts, in
the order of the listing and not in the order in which the answers come (`read_fault?`).  When all
are answered, definitions that cannot be read and rows that contradict each other do not matter:
all that can still go wrong is that views read each other in a circle (`viewsWithIssues_of_known`).
-/

namespace SchemaLineage

namespace Reply

variable {α β γ δ : Type}

def fault? : Reply α → Option CatalogFault
  | .error f => some f
  | .ok _ => none

theorem fault?_eq_none {x : Reply α} (h : x.fault? = none) : ∃ a, x = .ok a := by
  cases x with
  | error f => cases h
  | ok a => exact ⟨a, rfl⟩

theorem fault?_eq_some {x : Reply α} {f : CatalogFault} (h : x.fault? = some f) : x = .error f := by
  cases x with
  | error f' => cases h; rfl
  | ok a => cases h

/-- Of questions that are asked one after another the first one that fails counts. -/
theorem fault?_bind (x : Reply α) {k : α → Reply β} {rest : Option CatalogFault}
    (h : ∀ a, x = .ok a → (k a).fault? = rest) : (x >>= k).fault? = x.fault?.or rest := by
  cases x with
  | error f => rfl
  | ok a => exact h a rfl

theorem fault?_three (x : Reply α) (y : Reply β) (z : Reply γ) (make : α → β → γ → δ) :
    fault? (do
      let a ← x
      let b ← y
      let c ← z
      return make a b c) = [x.fault?, y.fault?, z.fault?].findSome? id := by
  cases x with
  | error f => rfl
  | ok a =>
    cases y with
    | error f => rfl
    | ok b =>
      cases z with
      | error f => rfl
      | ok c => rfl

theorem fault?_bind_pure (x : Reply α) (f : α → β) :
    fault? (x >>= fun a => pure (f a)) = x.fault? := by
  cases x with
  | error e => rfl
  | ok a => rfl

theorem fault?_mapM (replies : List (Reply α)) :
    Reply.fault? (replies.mapM id) = (replies.map fault?).findSome? id := by
  induction replies with
  | nil => rfl
  | cons x replies ih =>
    have hrest : ∀ a, (id x : Reply α) = .ok a →
        Reply.fault? (replies.mapM id >>= fun as => pure (a :: as)) =
          (replies.map fault?).findSome? id := by
      intro a _
      exact (fault?_bind_pure _ _).trans ih
    rw [List.mapM_cons, fault?_bind _ hrest, List.map_cons, List.findSome?_cons]
    cases x with
    | error f => rfl
    | ok a => rfl

/-- So does the first one of those that are asked at the same time, unless one is never answered. -/
theorem fault?_together {replies : List (Reply α)} (h : some .silent ∉ replies.map fault?) :
    (together replies).fault? = (replies.map fault?).findSome? id := by
  have hanswered : replies.any isSilent = false := by
    rw [List.any_eq_false]
    intro x hx hsilent
    refine h (List.mem_map.mpr ⟨x, hx, ?_⟩)
    unfold isSilent at hsilent
    split at hsilent
    · rfl
    · cases hsilent
  rw [together, hanswered]
  exact fault?_mapM replies

end Reply

theorem findSome?_flatMap {α β : Type} (f : α → List (Option β)) (as : List α) :
    (as.flatMap f).findSome? id = (as.map fun a => (f a).findSome? id).findSome? id := by
  induction as with
  | nil => rfl
  | cons a as ih =>
    rw [List.flatMap_cons, List.findSome?_append, ih, List.map_cons, List.findSome?_cons]
    cases (f a).findSome? id with
    | none => rfl
    | some b => rfl

namespace Catalog

variable {c : Catalog} {schemaName : String}

/-! ## The questions in their order -/

def tableCalls (c : Catalog) (ref : RelationRef) : List (Option CatalogFault) :=
  [(c.columns ref).fault?, (c.constraints ref).fault?, (c.comment ref).fault?]

def viewCalls (c : Catalog) (ref : RelationRef) : List (Option CatalogFault) :=
  [(c.columns ref).fault?, (c.comment ref).fault?, (c.definition ref).fault?]

def relationCalls (c : Catalog) (refs : List RelationRef) : List (Option CatalogFault) :=
  (tablesOf refs).flatMap c.tableCalls ++ (viewsOf refs).flatMap c.viewCalls

/-- The questions of a pass, each with its fault if it fails: what is listed and the types, then what
is asked about each table, then what is asked about each view. -/
def calls (c : Catalog) (schemaName : String) : List (Option CatalogFault) :=
  (c.relations schemaName).fault? :: (c.types schemaName).fault? ::
    (c.relations schemaName).toOption.toList.flatMap c.relationCalls

def firstFault? (c : Catalog) (schemaName : String) : Option CatalogFault :=
  (c.calls schemaName).findSome? id

theorem table_fault? (ref : RelationRef) :
    (c.table ref).fault? = (c.tableCalls ref).findSome? id :=
  Reply.fault?_three _ _ _ fun rows constraints comment =>
    (ref, Table.ofRows ref rows constraints comment)

theorem view_fault? (ref : RelationRef) :
    (c.view ref).fault? = (c.viewCalls ref).findSome? id :=
  Reply.fault?_three _ _ _ fun rows comment definition =>
    ({ ref, rows, comment, definition } : ViewSource)

theorem together_fault? {α : Type} {refs : List RelationRef} {one : RelationRef → Reply α}
    {calls : RelationRef → List (Option CatalogFault)}
    (hone : ∀ ref, (one ref).fault? = (calls ref).findSome? id)
    (hanswers : some .silent ∉ refs.flatMap calls) :
    (Reply.together (refs.map one)).fault? = (refs.flatMap calls).findSome? id := by
  have hfaults : (refs.map one).map Reply.fault? =
      refs.map fun ref => (calls ref).findSome? id := by
    rw [List.map_map]
    exact List.map_congr_left fun ref _ => hone ref
  have hsilent : some .silent ∉ (refs.map one).map Reply.fault? := by
    rw [hfaults]
    intro hmem
    obtain ⟨ref, href, hfirst⟩ := List.mem_map.mp hmem
    obtain ⟨call, hcall, heq⟩ := List.exists_of_findSome?_eq_some hfirst
    have hcall' : some .silent ∈ calls ref := by
      have heq' : call = some .silent := heq
      exact heq' ▸ hcall
    exact hanswers (List.mem_flatMap.mpr ⟨ref, href, hcall'⟩)
  rw [Reply.fault?_together hsilent, hfaults, findSome?_flatMap]

/-- What keeps the catalog from being read is the first question that fails. -/
theorem read_fault? (hanswers : some .silent ∉ c.calls schemaName) :
    (c.read schemaName).fault? = c.firstFault? schemaName := by
  unfold read firstFault?
  unfold calls at hanswers ⊢
  cases hrefs : c.relations schemaName with
  | error f => rfl
  | ok refs =>
    cases htypes : c.types schemaName with
    | error f => rfl
    | ok types =>
      have hcalls : some .silent ∉ c.relationCalls refs := by
        intro hmem
        rw [hrefs] at hanswers
        refine hanswers (List.mem_cons_of_mem _ (List.mem_cons_of_mem _ ?_))
        exact List.mem_flatMap.mpr ⟨refs, List.mem_cons_self, hmem⟩
      rw [relationCalls, List.mem_append, not_or] at hcalls
      -- The views are asked for only when all tables have answered.
      have hviews : ∀ tables, Reply.together ((tablesOf refs).map c.table) = .ok tables →
          Reply.fault? (do
            let views ← Reply.together ((viewsOf refs).map c.view)
            return ({ tables, views, types } : Reading)) =
              ((viewsOf refs).flatMap c.viewCalls).findSome? id := by
        intro tables _
        exact (Reply.fault?_bind_pure _ _).trans (together_fault? view_fault? hcalls.2)
      have htables := Reply.fault?_bind _ hviews
      rw [together_fault? table_fault? hcalls.1, ← List.findSome?_append] at htables
      refine htables.trans ?_
      show (c.relationCalls refs).findSome? id = ([refs].flatMap c.relationCalls).findSome? id
      rw [List.flatMap_singleton]

end Catalog

/-! ## The views -/

theorem analyzeView_of_known {known : KnownRelations} {view : RelationRef}
    {dialect : Sql.Language} {definition : Option String} (hdialect : dialect.IsKnown) :
    (∃ a, analyzeView known view dialect definition = .ok a) ∨
      ∃ f, analyzeView known view dialect definition = .error (.definition f) := by
  obtain ⟨read, hread⟩ := Option.isSome_iff_exists.mp hdialect
  have hselect : (∃ q, selectOf dialect definition = .ok q) ∨
      ∃ f, selectOf dialect definition = .error (.definition f) := by
    unfold selectOf
    rw [hread]
    by_cases hempty : (definitionText definition).isEmpty = true
    · exact .inr ⟨_, if_pos hempty⟩
    · simp only [if_neg hempty]
      cases read (definitionText definition) with
      | error message => exact .inr ⟨_, rfl⟩
      | ok statement =>
        cases hq : statement.toSelect with
        | ok q => exact .inl ⟨q, by simp only [hq]⟩
        | error kind => exact .inr ⟨.notSelect kind, by simp only [hq]⟩
  unfold analyzeView
  rcases hselect with ⟨q, hq⟩ | ⟨f, hf⟩
  · rw [hq]
    exact .inl ⟨_, rfl⟩
  · rw [hf]
    exact .inr ⟨f, rfl⟩

namespace Reading

variable {r : Reading} {dialect : Sql.Language} {i : Inventory}

/-- A view's definition was analyzed and reads another view that was listed. -/
def Follows (r : Reading) (dialect : Sql.Language) (ref other : RelationRef) : Prop :=
  ∃ v ∈ r.views, v.ref = ref ∧
    (∃ a, analyzeView r.known v.ref dialect v.definition = .ok a ∧ other ∈ a.sources) ∧
    ∃ w ∈ r.views, w.ref = other

theorem declares_iff_follows (hr : r.Sorted) (h : r.inventory? dialect = .ok i)
    {ref other : RelationRef} : i.Declares ref other ↔ r.Follows dialect ref other := by
  constructor
  · rintro ⟨s, hs, hother, hview⟩
    obtain ⟨v, hv, href, issues, hanalyzed⟩ := exists_view_of_view? h hs
    obtain ⟨s', hs'⟩ := Option.isSome_iff_exists.mp hview
    obtain ⟨w, hw, hwref, -⟩ := exists_view_of_view? h hs'
    rcases analyzed_ok hanalyzed with ⟨a, ha, rfl⟩ | ⟨f, -, rfl⟩
    · exact ⟨v, hv, href, ⟨a, ha, hother⟩, w, hw, hwref⟩
    · rw [ViewSource.sources, hr.unanalyzed s hv] at hother
      cases hother
  · rintro ⟨v, hv, rfl, ⟨a, ha, hother⟩, w, hw, rfl⟩
    obtain ⟨s, issues, hs, hanalyzed⟩ := view?_of_mem hr h hv
    obtain ⟨s', issues', hs', -⟩ := view?_of_mem hr h hw
    rcases analyzed_ok hanalyzed with ⟨a', ha', rfl⟩ | ⟨f, hf, -⟩
    · rw [ha] at ha'
      cases ha'
      exact ⟨_, hs, hother, Option.isSome_iff_exists.mpr ⟨s', hs'⟩⟩
    · rw [ha] at hf
      cases hf

/-- Where the dialect is known every definition has an analysis or is reported. -/
theorem inventory?_of_known (hdialect : dialect.IsKnown) :
    ∃ analyses, r.views.mapM (r.analyzed dialect) = .ok analyses ∧
      r.inventory? dialect = .ok ⟨r.built, analyses.map (·.1)⟩ := by
  have hall : ∀ v, ∃ p, r.analyzed dialect v = .ok p := by
    intro v
    unfold analyzed
    rcases analyzeView_of_known hdialect with ⟨a, ha⟩ | ⟨f, hf⟩
    · rw [ha]
      exact ⟨_, rfl⟩
    · rw [hf]
      exact ⟨_, rfl⟩
  choose p hp using hall
  have hanalyses := mapM_ok_of_forall fun v (_ : v ∈ r.views) => hp v
  refine ⟨r.views.map p, hanalyses, ?_⟩
  rw [inventory?, hanalyses]
  rfl

section

open Resolving

variable {views : List ViewSource}

theorem resolvedViews_error {cycle : ViewCycle}
    (h : ((Inventory.mk r.built views).resolveAll.on []).1 = .error cycle) :
    r.resolvedViews views = .error (.cycle cycle) := by
  have hrun : ((Inventory.mk r.built views).resolveAll.run.run []).1 = .error cycle := h
  unfold resolvedViews
  rw [hrun]

theorem resolvedViews_ok {made : List TableOrView}
    (h : ((Inventory.mk r.built views).resolveAll.on []).1 = .ok made) :
    r.resolvedViews views = .ok (made.filterMap TableOrView.view?) := by
  have hrun : ((Inventory.mk r.built views).resolveAll.run.run []).1 = .ok made := h
  unfold resolvedViews
  rw [hrun]

/-- Views that read each other in a circle, and nothing else, keep them from being made. -/
theorem viewsWithIssues_of_known (hr : r.Sorted) (hdialect : dialect.IsKnown) :
    ((∃ ref, Relation.TransGen (r.Follows dialect) ref ref) →
        ∃ cycle, r.viewsWithIssues dialect true = .error (.cycle cycle)) ∧
      ((¬ ∃ ref, Relation.TransGen (r.Follows dialect) ref ref) →
        ∃ p, r.viewsWithIssues dialect true = .ok p) := by
  obtain ⟨analyses, hanalyses, hinventory⟩ := inventory?_of_known (r := r) hdialect
  have hdeclared := declared_of_inventory? hr hinventory
  have hsame : Inventory.Declares ⟨r.built, analyses.map (·.1)⟩ = r.Follows dialect := by
    funext ref other
    exact propext (declares_iff_follows hr hinventory)
  have hcircle := Inventory.plainAll_error_iff hdeclared
  rw [hsame, ← Inventory.resolveAll_on_fst Inventory.Sound.nil] at hcircle
  have hviews : r.viewsWithIssues dialect true = (r.resolvedViews (analyses.map (·.1))).map
      fun views => (views, analyses.flatMap (·.2)) := by
    rw [viewsWithIssues, if_pos rfl, hanalyses]
    show (r.resolvedViews (analyses.map (·.1)) >>= fun views =>
      pure (views, analyses.flatMap (·.2))) = _
    cases r.resolvedViews (analyses.map (·.1)) with
    | error e => rfl
    | ok views => rfl
  rw [← hcircle, hviews]
  constructor
  · rintro ⟨cycle, hcycle⟩
    exact ⟨cycle, by rw [resolvedViews_error hcycle]; rfl⟩
  · intro hnot
    cases hmade : ((Inventory.mk r.built (analyses.map (·.1))).resolveAll.on []).1 with
    | error cycle => exact absurd ⟨cycle, hmade⟩ hnot
    | ok made => exact ⟨_, by rw [resolvedViews_ok hmade]; rfl⟩

end

end Reading

namespace Catalog

variable {c : Catalog} {schemaName : String} {resolve : Bool}

theorem extract_of_no_limit {limit : Option Seconds} (h : limit.filter Seconds.isLimit = none) :
    c.extract schemaName resolve limit = c.pass schemaName resolve := by
  unfold extract
  rw [h]
  split
  · rename_i hsome
    cases hsome
  · rfl

/-- Without a limit of time, and where every question is answered or fails, a pass ends with the first
failure; else with a circle of views, if it follows columns and there is one; else with a result. -/
theorem extract_outcome {limit : Option Seconds} (hdialect : c.dialect.IsKnown)
    (hanswers : some .silent ∉ c.calls schemaName)
    (hlimit : limit.filter Seconds.isLimit = none) :
    (∀ f, c.firstFault? schemaName = some f →
        c.extract schemaName resolve limit = .error (.catalog f)) ∧
      (c.firstFault? schemaName = none → ∃ r, c.read schemaName = .ok r ∧
        ((resolve = true ∧ ∃ ref, Relation.TransGen (r.Follows c.dialect) ref ref) →
          ∃ cycle, c.extract schemaName resolve limit = .error (.cycle cycle)) ∧
        (¬ (resolve = true ∧ ∃ ref, Relation.TransGen (r.Follows c.dialect) ref ref) →
          ∃ e, c.extract schemaName resolve limit = .ok e)) := by
  rw [extract_of_no_limit hlimit, ← read_fault? hanswers]
  constructor
  · intro f hf
    exact pass_of_unread (Reply.fault?_eq_some hf)
  · intro hnone
    obtain ⟨r, hread⟩ := Reply.fault?_eq_none hnone
    obtain ⟨hcircle, hmade⟩ := Reading.viewsWithIssues_of_known (sorted_of_read hread) hdialect
    refine ⟨r, hread, ?_, ?_⟩
    · rintro ⟨rfl, hcycle⟩
      obtain ⟨cycle, hcycle⟩ := hcircle hcycle
      exact ⟨cycle, by rw [pass_of_read hread, hcycle]; rfl⟩
    · intro hnot
      rw [pass_of_read hread]
      cases resolve with
      | false => exact ⟨_, rfl⟩
      | true =>
        obtain ⟨p, hp⟩ := hmade fun hcycle => hnot ⟨rfl, hcycle⟩
        exact ⟨_, by rw [hp]; rfl⟩

/-- A view that reads itself, listed before a table.  Neither can be described when the catalog is
broken. -/
def failing (broken : Bool) : Catalog where
  dialect := .named "postgres"
  relations _ := .ok [⟨"s", "v", .view⟩, ⟨"s", "t", .table⟩]
  types _ := .ok []
  columns ref :=
    if broken && ref.isView then .error (.unavailable "columns of v")
    else .ok [{ name := "id", ordinalPosition := 1 }]
  constraints _ := .ok []
  comment _ := if broken then .error (.unavailable "comment of t") else .ok none
  definition _ := .ok (some "SELECT id FROM v")

theorem failing_outcome :
    (failing true).extract "s" true none = .error (.catalog (.unavailable "comment of t")) ∧
      (∃ cycle, (failing false).extract "s" true none = .error (.cycle cycle)) ∧
      ∃ e, (failing false).extract "s" false none = .ok e := by
  have hdialect : (Sql.Language.named "postgres").IsKnown := rfl
  have hbroken : some .silent ∉ (failing true).calls "s" := by decide
  have hwhole : some .silent ∉ (failing false).calls "s" := by decide
  have hfailure := @extract_outcome (failing true) "s" true none hdialect hbroken rfl
  have hcircle := @extract_outcome (failing false) "s" true none hdialect hwhole rfl
  have hplain := @extract_outcome (failing false) "s" false none hdialect hwhole rfl
  refine ⟨hfailure.1 _ rfl, ?_, ?_⟩
  · obtain ⟨r, hread, hcycle, -⟩ := hcircle.2 rfl
    have hr : (failing false).read "s" = .ok r := hread
    cases hr
    let a : ViewAnalysis :=
      { sources := [⟨"s", "v", .view⟩], projections := [.direct ⟨"s", "v", .view⟩ "id" "id"] }
    refine hcycle ⟨rfl, ⟨"s", "v", .view⟩, .single ⟨_, List.mem_cons_self, rfl,
      ⟨a, ?_, List.mem_cons_self⟩, _, List.mem_cons_self, rfl⟩⟩
    decide +kernel
  · obtain ⟨r, -, -, hok⟩ := hplain.2 rfl
    exact hok fun hboth => Bool.false_ne_true hboth.1

end Catalog
end SchemaLineage
