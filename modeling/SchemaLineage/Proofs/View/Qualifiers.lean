import Mathlib.Data.List.Find
import SchemaLineage.Proofs.Outcome
import SchemaLineage.Proofs.View.Origins
import SchemaLineage.Proofs.View.References
import SchemaLineage.Proofs.View.Requalified
/-
What a qualifier means in a `SELECT` clause.

A column with a qualifier is sought in the source that the qualifier denotes, in whatever case it is
written.  A star with a qualifier, and the preference for sources that other items name, go by the
label as it is written.  So the three readings agree just for a qualifier that is spelled like its
label (`Select.qualifier_reads`), and other spellings may be changed freely, as long as the labels
that are written somewhere stay written somewhere (`Select.Respelled`, `Select.LabelsKept`).
-/

namespace SchemaLineage

namespace Source

variable {sources : List Source} {a : String} {s : Source}

/-- A qualifier that is not the label of its source is the label of none. -/
theorem label_of_ofQualifier? (h : ofQualifier? sources a = some s) :
    (sources.find? fun t => t.label = a) = some s ∧ s.label = a ∨
      (sources.find? fun t => t.label = a) = none ∧ s.label ≠ a := by
  cases hfind : sources.find? fun t => t.label = a with
  | some t =>
    rw [ofQualifier?_eq, hfind, Option.some_or] at h
    cases h
    have hlabel := List.find?_some hfind
    exact .inl ⟨rfl, of_decide_eq_true hlabel⟩
  | none =>
    rw [ofQualifier?_eq, hfind, Option.none_or] at h
    have hlabel := List.find?_eq_none.mp hfind s (List.mem_of_find?_eq_some h)
    exact .inr ⟨rfl, by simpa using hlabel⟩

theorem star_iff (h : ofQualifier? sources a = some s) (explicit : List String) :
    (Sql.Expr.starOf a).projections sources explicit = [.wildcard s.relation] ↔
      s.label = a ∨ s.relation = none := by
  rw [Sql.Expr.projections_starOf]
  rcases label_of_ofQualifier? h with ⟨hfind, hlabel⟩ | ⟨hfind, hlabel⟩
  · rw [hfind]
    simp [hlabel]
  · rw [hfind]
    simp [hlabel, eq_comm]

/-- Of labels that are all different each is that of one source. -/
theorem filter_matching (hlabels : (sources.map (·.label)).Nodup) (hs : s ∈ sources)
    {name n : String} (hn : s.spelling? name = some n) :
    (matching sources name).filter (fun m => m.1.label = s.label) = [(s, n)] := by
  obtain ⟨l, r, rfl⟩ := List.append_of_mem hs
  rw [List.map_append, List.map_cons, List.nodup_middle, List.nodup_cons, List.mem_append] at hlabels
  have hnone : ∀ ts : List Source, s.label ∉ ts.map (·.label) →
      (matching ts name).filter (fun m => m.1.label = s.label) = [] := by
    intro ts hts
    refine List.filter_eq_nil_iff.mpr fun m hm hlabel => hts ?_
    rw [← of_decide_eq_true hlabel]
    exact List.mem_map_of_mem (mem_matching hm).1
  have hcut : matching (l ++ s :: r) name = matching l name ++ (s, n) :: matching r name := by
    unfold matching
    rw [List.filterMap_append, List.filterMap_cons_some]
    show ((s.spelling? name).map fun n => (s, n)) = some (s, n)
    rw [hn]
    rfl
  rw [hcut, List.filter_append, List.filter_cons_of_pos (by simp),
    hnone l fun h => hlabels.1 (.inl h), hnone r fun h => hlabels.1 (.inr h)]
  rfl

/-- Where several sources have a name, and the items name a single qualifier, the name is followed
to the source of the qualifier just if this is its label. -/
theorem originOf_preferred_iff (h : ofQualifier? sources a = some s) {explicit : List String}
    (hexplicit : ∀ x, x ∈ explicit ↔ x = a) (hknown : ∀ t ∈ sources, t.columns ≠ none)
    (hlabels : (sources.map (·.label)).Nodup) {name n : String} (hn : s.spelling? name = some n)
    (hseveral : 1 < (matching sources name).length) {ref : RelationRef}
    (href : s.relation = some ref) (outputName : String) :
    originOf sources explicit none name outputName = s.origin name outputName ↔ s.label = a := by
  have horigin : s.origin name outputName = .direct ref n outputName := by
    unfold origin
    rw [href, hn]
  have hall : (sources.map (mark explicit)).any (fun m => m.1.columns.isNone) = false := by
    rw [List.any_map, List.any_eq_false]
    intro t ht hnone
    exact hknown t ht (Option.isNone_iff_eq_none.mp hnone)
  have hpreferred : preferred (found (sources.map (mark explicit)) name) =
      ((matching sources name).filter fun m => m.1.label = a).map fun m =>
        (m.1.relation, m.2, explicit.contains m.1.label) := by
    rw [found_mark, preferred, List.length_map, if_pos hseveral, List.filter_map]
    congr 1
    refine List.filter_congr fun m _ => ?_
    show explicit.contains m.1.label = decide (m.1.label = a)
    rw [Bool.eq_iff_iff, List.contains_iff_mem, hexplicit, decide_eq_true_iff]
  rw [originOf_bare rfl, bareOrigin, hall, if_neg Bool.false_ne_true, hpreferred, horigin]
  rcases label_of_ofQualifier? h with ⟨-, hlabel⟩ | ⟨hfind, hlabel⟩
  · rw [← hlabel, filter_matching hlabels (mem_of_ofQualifier? h) hn, List.map_singleton, href]
    exact iff_of_true rfl rfl
  · have hnone : (matching sources name).filter (fun m => m.1.label = a) = [] := by
      refine List.filter_eq_nil_iff.mpr fun m hm => ?_
      exact List.find?_eq_none.mp hfind m.1 (mem_matching hm).1
    rw [hnone]
    exact iff_of_false Projection.noConfusion hlabel

end Source

namespace Sql

/-- The same item with its qualifiers in other letter case, where each still denotes the same. -/
structure Expr.Respelled (sources : List Source) (e e' : Expr) : Prop where
  shape : e'.erased = e.erased
  qualifiers : List.Forall₂ (fun a a' => Text.sameFolded a a' = true ∧
    Source.ofQualifier? sources a' = Source.ofQualifier? sources a) e.qualifiers e'.qualifiers

/-- A star stays written like the label of a source, or written otherwise. -/
def Expr.StarKept (sources : List Source) (e e' : Expr) : Prop :=
  ∀ a a', e = .starOf a → e' = .starOf a' → ∀ s ∈ sources, s.label = a ↔ s.label = a'

section Item

variable {sources : List Source} {explicit explicit' : List String} {e e' : Expr} {a a' : String}

theorem agree_of_respelled (h : Text.sameFolded a a' = true ∧
    Source.ofQualifier? sources a' = Source.ofQualifier? sources a) :
    Source.Agree sources sources a a' where
  empty := by
    constructor
    · rintro rfl
      rw [Text.sameFolded_comm] at h
      exact Text.sameFolded_empty.mp h.1
    · rintro rfl
      exact Text.sameFolded_empty.mp h.1
  denotes _ := by rw [h.2]

theorem find?_label_congr (h : ∀ s ∈ sources, s.label = a ↔ s.label = a') :
    (sources.find? fun s => s.label = a') = sources.find? fun s => s.label = a := by
  refine List.find?_congr fun s hs => ?_
  rw [Bool.eq_iff_iff, decide_eq_true_iff, decide_eq_true_iff, h s hs]

theorem Expr.Respelled.projections (h : e.Respelled sources e') (hstar : e.StarKept sources e')
    (hmarks : sources.map (Source.mark explicit') = sources.map (Source.mark explicit)) :
    e'.projections sources explicit' = e.projections sources explicit := by
  refine Expr.projections_of_shape h.shape (h.qualifiers.imp fun a a' => agree_of_respelled) hmarks ?_
  intro a a' he he'
  rw [find?_label_congr (hstar a a' he he')]

end Item

namespace Select

/-- The same query with qualifiers in other letter case in its `SELECT` clause, at any depth. -/
structure Respelled (known : KnownRelations) (home : String) (q q' : Select) : Prop where
  items : List.Forall₂ (Expr.Respelled (q.sources ⟨known, home, q.cteNames⟩)) q.items q'.items
  source : q'.source = q.source
  joins : q'.joins = q.joins
  clauses : q'.clauses = q.clauses
  ctes : q'.ctes = q.ctes

/-- The labels that items are written with are the same, for the `SELECT` clause as a whole and for
each star. -/
structure LabelsKept (known : KnownRelations) (home : String) (q q' : Select) : Prop where
  written : ∀ s ∈ q.sources ⟨known, home, q.cteNames⟩, s.label ∈ q'.explicit ↔ s.label ∈ q.explicit
  stars : List.Forall₂ (Expr.StarKept (q.sources ⟨known, home, q.cteNames⟩)) q.items q'.items

namespace Respelled

variable {known : KnownRelations} {home : String} {q q' : Select}

theorem sources_eq (h : q.Respelled known home q') (s : Scope) : q'.sources s = q.sources s := by
  unfold Select.sources
  rw [h.source, h.joins]

theorem cteNames_eq (h : q.Respelled known home q') : q'.cteNames = q.cteNames :=
  congrArg (List.map Cte.name) h.ctes

theorem tables_eq (h : q.Respelled known home q') : q'.tables = q.tables := by
  refine Select.tables_eq_of_shapes ?_ (by rw [h.source]) (by rw [h.joins]) h.clauses h.ctes
  exact (map_eq_of_forall₂ h.items fun _ _ hshape => hshape.shape.symm).symm

/-- Where the labels stay written as they are, letter case is of no account. -/
theorem analysis_eq (h : q.Respelled known home q') (hkept : q.LabelsKept known home q') :
    q'.analysis known home = q.analysis known home := by
  refine Select.analysis_congr h.ctes h.tables_eq (by rw [h.sources_eq]) ?_
  have hmarks : (q.sources ⟨known, home, q.cteNames⟩).map (Source.mark q'.explicit) =
      (q.sources ⟨known, home, q.cteNames⟩).map (Source.mark q.explicit) := by
    refine List.map_congr_left fun s hs => Prod.ext rfl ?_
    show q'.explicit.contains s.label = q.explicit.contains s.label
    rw [Bool.eq_iff_iff, List.contains_iff_mem, List.contains_iff_mem]
    exact hkept.written s hs
  have hboth := List.Forall₂.mp (fun e e' he hstar => (⟨he, hstar⟩ : _ ∧ _)) h.items hkept.stars
  refine (flatMap_eq_of_forall₂ hboth fun e e' he => ?_).symm
  unfold Select.part
  rw [h.sources_eq, h.cteNames_eq]
  exact (he.1.projections he.2 hmarks).symm

end Respelled

/-- A column is sought in the source that its qualifier denotes.  A star stands for this source, and
a column without a qualifier is taken from it rather than from another one, just if the qualifier is
the label of the source.  Other letter case that leaves labels as they are written changes
nothing. -/
theorem qualifier_reads (q : Select) (known : KnownRelations) (home : String) :
    (∀ a s, a ≠ "" → Source.ofQualifier? (q.sources ⟨known, home, q.cteNames⟩) a = some s →
      (∀ name outputName,
        originOf (q.sources ⟨known, home, q.cteNames⟩) q.explicit (some a) name outputName =
          s.origin name outputName) ∧
      (q.part known home (.starOf a) = [.wildcard s.relation] ↔
        s.label = a ∨ s.relation = none) ∧
      ((∀ x, x ∈ q.explicit ↔ x = a) →
        (∀ t ∈ q.sources ⟨known, home, q.cteNames⟩, t.columns ≠ none) →
        ((q.sources ⟨known, home, q.cteNames⟩).map (·.label)).Nodup →
        ∀ name n ref outputName, s.spelling? name = some n → s.relation = some ref →
          1 < (Source.matching (q.sources ⟨known, home, q.cteNames⟩) name).length →
          (originOf (q.sources ⟨known, home, q.cteNames⟩) q.explicit none name outputName =
            s.origin name outputName ↔ s.label = a))) ∧
    ∀ q', q.Respelled known home q' → q.LabelsKept known home q' →
      q'.analysis known home = q.analysis known home := by
  refine ⟨fun a s ha h => ⟨?_, ?_, ?_⟩, fun q' h hkept => h.analysis_eq hkept⟩
  · intro name outputName
    rw [originOf_qualified ha, h]
    rfl
  · exact Source.star_iff h q.explicit
  · intro hexplicit hknown hlabels name n ref outputName hn href hseveral
    exact Source.originOf_preferred_iff h hexplicit hknown hlabels hn hseveral href outputName

end Select

/-- `SELECT o.customer_id, ….total, id FROM orders AS o, public."Customers" AS c` -/
def ordersQualified (a : String) : Select :=
  .mk [.column (some "o") "customer_id", .column (some a) "total", .column none "id"] [ordersItem]
    [.mk customersItem []] [] []

theorem ordersQualified_respelled :
    (ordersQualified "o").Respelled ordersAndCustomers "public" (ordersQualified "O") where
  items := .cons ⟨rfl, .cons (by decide +kernel) .nil⟩
    (.cons ⟨rfl, .cons (by decide +kernel) .nil⟩ (.cons ⟨rfl, .nil⟩ .nil))
  source := rfl
  joins := rfl
  clauses := rfl
  ctes := rfl

theorem ordersQualified_labelsKept :
    (ordersQualified "o").LabelsKept ordersAndCustomers "public" (ordersQualified "O") where
  written := by decide +kernel
  stars := .cons (fun _ _ h => nomatch h) (.cons (fun _ _ h => nomatch h)
    (.cons (fun _ _ h => nomatch h) .nil))

/-- The `id` that both tables have is that of the table which the other items name. -/
theorem ordersQualified_reads :
    (ordersQualified "o").part ordersAndCustomers "public" (.starOf "o") =
      [.wildcard (some ordersRef)] ∧
    (ordersQualified "o").part ordersAndCustomers "public" (.column none "id") =
      [.direct ordersRef "id" "id"] ∧
    (ordersQualified "O").analysis ordersAndCustomers "public" =
      (ordersQualified "o").analysis ordersAndCustomers "public" := by
  obtain ⟨hreads, hrespelled⟩ :=
    Select.qualifier_reads (ordersQualified "o") ordersAndCustomers "public"
  obtain ⟨-, hstar, hbare⟩ := hreads "o" ⟨"o", some ordersRef, some ["id", "customer_id", "total"]⟩
    (by decide) (by decide +kernel)
  have hexplicit : (ordersQualified "o").explicit = ["o", "o"] := by decide +kernel
  have honly : ∀ x, x ∈ (ordersQualified "o").explicit ↔ x = "o" := by
    intro x
    rw [hexplicit, List.mem_cons, List.mem_singleton, or_self]
  have hid := hbare honly (by decide +kernel) (by decide +kernel) "id" "id" ordersRef "id"
    (by decide +kernel) rfl (by decide +kernel)
  have hname : (Expr.column none "id").itemName = "id" := by decide +kernel
  refine ⟨hstar.mpr (.inl rfl), ?_, hrespelled _ ordersQualified_respelled ordersQualified_labelsKept⟩
  rw [Select.part_of_isStar _ _ _ rfl, Expr.origin_of_column rfl, hname, hid.mpr rfl]
  decide +kernel

/-- Columns and a star under one qualifier, beside a column that both tables have. -/
def qualifiedQuery (a : String) : String :=
  "SELECT " ++ a ++ ".customer_id, " ++ a ++
    ".*, id FROM orders o JOIN customers c ON c.id = o.customer_id"

theorem qualifiedQuery_misread :
    (∃ q, selectOf (.named "postgres") (some (qualifiedQuery "O")) = .ok q ∧
      Source.ofQualifier? (q.sources ⟨ordersAndCustomers, "public", q.cteNames⟩) "O" =
        some ⟨"o", some ordersRef, some ["id", "customer_id", "total"]⟩ ∧
      (q.analysis ordersAndCustomers "public").projections =
        [.direct ordersRef "customer_id" "customer_id", .wildcard none, .untraced "id"]) ∧
    ∃ q, selectOf (.named "postgres") (some (qualifiedQuery "o")) = .ok q ∧
      (q.analysis ordersAndCustomers "public").projections =
        [.direct ordersRef "customer_id" "customer_id", .wildcard (some ordersRef),
          .direct ordersRef "id" "id"] := by
  have hother : (selectOf (.named "postgres") (some (qualifiedQuery "O"))).toOption.map (fun q =>
      (Source.ofQualifier? (q.sources ⟨ordersAndCustomers, "public", q.cteNames⟩) "O",
        (q.analysis ordersAndCustomers "public").projections)) =
      some (some ⟨"o", some ordersRef, some ["id", "customer_id", "total"]⟩,
        [.direct ordersRef "customer_id" "customer_id", .wildcard none, .untraced "id"]) := by
    decide +kernel
  have hsame : (selectOf (.named "postgres") (some (qualifiedQuery "o"))).toOption.map (fun q =>
      (q.analysis ordersAndCustomers "public").projections) =
      some [.direct ordersRef "customer_id" "customer_id", .wildcard (some ordersRef),
        .direct ordersRef "id" "id"] := by
    decide +kernel
  obtain ⟨q, hq, heq⟩ := ok_of_map_toOption hother
  obtain ⟨hdenotes, hprojections⟩ := Prod.mk.inj heq
  exact ⟨⟨q, hq, hdenotes, hprojections⟩, ok_of_map_toOption hsame⟩

end Sql
end SchemaLineage
