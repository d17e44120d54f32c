import SchemaLineage.Association
import SchemaLineage.Proofs.Text.Words
import SchemaLineage.Remarks
/-
A comment that is written as a text with tags after it, read again.

The text must have no tag in it (`TagFree`; a sign inside an address starts none), and the tags must
be ones that can be written, with a name of name characters and a value without quotes
(`Tag.WellFormed`).  Then the text comes back as the description and the tags as they were written,
of several with one name the first (`ofComment_written`).

The comment is read from the left, so the text is followed character by character with what stands
before the rest of it (`TagFreeAfter`), and the pieces of a text are stated with what follows it
(`pieces_append_of_tagFree`).
-/

namespace SchemaLineage

theorem eraseDups_filter {α : Type} [DecidableEq α] (p : α → Bool) (l : List α) :
    (l.filter p).eraseDups = l.eraseDups.filter p := by
  -- the tail first loses the copies of its head, so the induction is on the length
  induction hn : l.length using Nat.strongRecOn generalizing l with
  | ind n ih =>
    cases l with
    | nil => rfl
    | cons a l =>
      have hlt : (l.filter fun b => !b == a).length < n := by
        rw [← hn, List.length_cons]
        exact Nat.lt_succ_of_le (List.length_filter_le _ l)
      have hrest := ih _ hlt _ rfl
      rw [List.eraseDups_cons]
      by_cases ha : p a = true
      · rw [List.filter_cons_of_pos ha, List.filter_cons_of_pos ha, List.eraseDups_cons, ← hrest,
          List.filter_filter, List.filter_filter]
        simp only [Bool.and_comm]
      · rw [List.filter_cons_of_neg ha, List.filter_cons_of_neg ha, ← hrest, List.filter_filter]
        have hsame : l.filter p = l.filter fun b => p b && !b == a := by
          refine List.filter_congr fun b _ => ?_
          by_cases hb : b = a
          · subst hb
            simp [ha]
          · simp [hb]
        rw [hsame]

namespace Remarks

open Text

/-! ## Texts without tags -/

/-- No sign in a text starts a tag when the text comes after a character that blocks one or not. -/
def TagFreeAfter (blocked : Bool) (text : List Char) : Prop :=
  ∀ before c after, text = before ++ '@' :: c :: after → isNameStart c = true →
    (before.getLast?.map fun p => isWord p || p == '@').getD blocked = true

/-- Each sign with the start of a name after it has a word character or another sign before it. -/
def TagFree (text : List Char) : Prop := TagFreeAfter false text

theorem tagFreeAfter_nil (blocked : Bool) : TagFreeAfter blocked [] := by
  intro before c after htext
  cases before <;> cases htext

theorem tagFreeAfter_cons {blocked : Bool} {x : Char} {text : List Char} :
    TagFreeAfter blocked (x :: text) ↔
      (x = '@' → text.head?.any isNameStart = true → blocked = true) ∧
        TagFreeAfter (blocksTag x) text := by
  constructor
  · intro h
    constructor
    · rintro rfl hstart
      cases text with
      | nil => cases hstart
      | cons c text => exact h [] c text rfl hstart
    · intro before c after htext hstart
      have hx := h (x :: before) c after (by rw [htext]; rfl) hstart
      cases before with
      | nil => exact hx
      | cons b before => exact hx
  · rintro ⟨hx, htail⟩ before c after htext hstart
    cases before with
    | nil =>
      cases htext
      exact hx rfl hstart
    | cons b before =>
      cases htext
      have hbefore := htail before c after rfl hstart
      cases before with
      | nil => exact hbefore
      | cons d before => exact hbefore

instance decidableTagFreeAfter : (blocked : Bool) → (text : List Char) →
    Decidable (TagFreeAfter blocked text)
  | _, [] => .isTrue (tagFreeAfter_nil _)
  | _, x :: text =>
    have := decidableTagFreeAfter (blocksTag x) text
    decidable_of_iff' _ tagFreeAfter_cons

instance (text : List Char) : Decidable (TagFree text) := decidableTagFreeAfter false text

/-- What a text without tags says: its lines but for the blank ones, each with one blank between its
words. -/
def described? (text : List Char) : Option String :=
  if text.all isBlank then none
  else some (String.ofList
    (['\n'].intercalate (((lines text).filter fun l => !l.all isBlank).map collapse)))

/-! ## Written tags -/

/-- A Latin letter or low line, and then word characters and hyphens. -/
def IsName : List Char → Prop
  | [] => False
  | c :: r => isNameStart c = true ∧ (r.all fun d => isWord d || d == '-') = true

instance : (name : List Char) → Decidable (IsName name)
  | [] => inferInstanceAs (Decidable False)
  | _ :: _ => inferInstanceAs (Decidable (_ ∧ _))

/-- A tag that can be written between quotes. -/
structure Tag.WellFormed (t : Tag) : Prop where
  name : IsName t.name
  value : ∀ v ∈ t.value, '"' ∉ v

instance (t : Tag) : Decidable t.WellFormed :=
  decidable_of_iff (IsName t.name ∧ ∀ v ∈ t.value, '"' ∉ v)
    ⟨fun h => ⟨h.1, h.2⟩, fun h => ⟨h.name, h.value⟩⟩

/-- What is written after the name of a tag. -/
def writtenValue : Option (List Char) → List Char
  | none => []
  | some v => ':' :: '"' :: v ++ ['"']

def Tag.written (t : Tag) : List Char := ' ' :: '@' :: t.name ++ writtenValue t.value

/-- A text with tags after it. -/
def written (text : List Char) (tags : List Tag) : String :=
  String.ofList (text ++ tags.flatMap Tag.written)

def Tag.label (t : Tag) : String := String.ofList t.name

/-- The value of the first tag with a name, empty for a tag without one. -/
def valueOf? (tags : List Tag) (name : String) : Option String :=
  (tags.find? fun t => t.label = name).map fun t => String.ofList (t.value.getD [])

/-! ## The pieces of a written comment -/

section
variable {blocked : Bool} {c : Char} {r rest : List Char}

theorem pieces_nil : pieces blocked [] = [] := by
  rw [pieces]

theorem pieces_char (h : ¬(c = '@' ∧ blocked = false)) :
    pieces blocked (c :: r) = .char c :: pieces (blocksTag c) r := by
  rw [pieces, if_neg h]

theorem pieces_sign (h : splitTag? r = none) :
    pieces false ('@' :: r) = .char '@' :: pieces true r := by
  rw [pieces, if_pos ⟨rfl, rfl⟩]
  split
  · rename_i htag
    rw [h] at htag
    cases htag
  · rfl

theorem pieces_tag {t : Tag} (h : splitTag? r = some (t, rest)) :
    pieces false ('@' :: r) = .tag t :: pieces t.blocksTag rest := by
  rw [pieces, if_pos ⟨rfl, rfl⟩]
  split
  · rename_i htag
    rw [h] at htag
    cases htag
    rfl
  · rename_i htag
    rw [h] at htag
    cases htag

theorem splitTag?_eq_none (h : ∀ c ∈ r.head?, isNameStart c = false) : splitTag? r = none := by
  cases r with
  | nil => rfl
  | cons c r =>
    have hc : isNameStart c = false := h c rfl
    rw [splitTag?, hc]
    rfl

/-- A text without tags is cut into its characters, whatever follows that is not a name. -/
theorem pieces_append_of_tagFree {text : List Char} (htext : TagFreeAfter blocked text)
    (hrest : ∀ c ∈ rest.head?, isNameStart c = false) :
    ∃ b, pieces blocked (text ++ rest) = text.map Piece.char ++ pieces b rest := by
  induction text generalizing blocked with
  | nil => exact ⟨blocked, rfl⟩
  | cons x text ih =>
    obtain ⟨hx, htail⟩ := tagFreeAfter_cons.mp htext
    obtain ⟨b, hb⟩ := ih htail
    refine ⟨b, ?_⟩
    show pieces blocked (x :: (text ++ rest)) = .char x :: (text.map Piece.char ++ pieces b rest)
    rw [← hb]
    by_cases hsign : x = '@' ∧ blocked = false
    · obtain ⟨rfl, rfl⟩ := hsign
      have hname : ∀ c ∈ (text ++ rest).head?, isNameStart c = false := by
        intro c hc
        cases text with
        | nil => exact hrest c hc
        | cons d text =>
          obtain rfl : d = c := Option.some.inj hc
          by_cases hstart : isNameStart d = true
          · exact absurd (hx rfl hstart) Bool.false_ne_true
          · simpa using hstart
      exact pieces_sign (splitTag?_eq_none hname)
    · exact pieces_char hsign

theorem splitValue_quoted (h : r.contains '"' = true) :
    splitValue (':' :: '"' :: r) =
      (some (r.takeWhile (· != '"')), (r.dropWhile (· != '"')).drop 1) :=
  if_pos h

/-- Only another blank, or nothing, follows a written tag. -/
theorem splitValue_written {value : Option (List Char)} (hvalue : ∀ v ∈ value, '"' ∉ v)
    (hrest : ∀ c ∈ rest.head?, c = ' ') :
    splitValue (writtenValue value ++ rest) = (value, rest) := by
  cases value with
  | none =>
    cases rest with
    | nil => rfl
    | cons c rest =>
      obtain rfl : c = ' ' := hrest c rfl
      rfl
  | some v =>
    have hquote : '"' ∉ v := hvalue v rfl
    have hinside : ∀ c ∈ v, (c != '"') = true := by
      intro c hc
      have hne : c ≠ '"' := fun heq => hquote (heq ▸ hc)
      simpa using hne
    have hend : ∀ c ∈ ('"' :: rest).head?, (c != '"') = false := by
      intro c hc
      obtain rfl : '"' = c := Option.some.inj hc
      rfl
    have hwritten : writtenValue (some v) ++ rest = ':' :: '"' :: (v ++ '"' :: rest) := by
      simp [writtenValue]
    rw [hwritten, splitValue_quoted (by simp), takeWhile_append_of_head hinside hend,
      dropWhile_append_of_head hinside hend]
    rfl

theorem splitTag?_written {t : Tag} (ht : t.WellFormed) (hrest : ∀ c ∈ rest.head?, c = ' ') :
    splitTag? (t.name ++ (writtenValue t.value ++ rest)) = some (t, rest) := by
  obtain ⟨name, value⟩ := t
  obtain ⟨hname, hvalue⟩ := ht
  cases name with
  | nil => exact absurd hname id
  | cons c r =>
    obtain ⟨hstart, hr⟩ := hname
    have hinside : ∀ d ∈ r, isNameRest d = true := fun d hd => List.all_eq_true.mp hr d hd
    -- neither the sign of a value nor the blank before the next tag can stand in a name
    have hend : ∀ d ∈ (writtenValue value ++ rest).head?, isNameRest d = false := by
      intro d hd
      cases value with
      | none =>
        obtain rfl : d = ' ' := hrest d hd
        decide
      | some v =>
        obtain rfl : ':' = d := Option.some.inj hd
        decide
    have hsplit := splitValue_written hvalue hrest
    show splitTag? (c :: (r ++ (writtenValue value ++ rest))) = _
    simp only [splitTag?, hstart, if_true, takeWhile_append_of_head hinside hend,
      dropWhile_append_of_head hinside hend, hsplit]

variable {tags : List Tag}

theorem eq_of_mem_head?_written (tags : List Tag) :
    ∀ c ∈ (tags.flatMap Tag.written).head?, c = ' ' := by
  intro c hc
  cases tags with
  | nil => cases hc
  | cons t tags => exact (Option.some.inj hc).symm

/-- What a written tag is cut into: the blank before it is no part of it. -/
def Tag.pieces (t : Tag) : List Piece := [.char ' ', .tag t]

theorem pieces_tags (htags : ∀ t ∈ tags, t.WellFormed) :
    pieces blocked (tags.flatMap Tag.written) = tags.flatMap Tag.pieces := by
  induction tags generalizing blocked with
  | nil => exact pieces_nil
  | cons t tags ih =>
    have ht : t.WellFormed := htags t List.mem_cons_self
    have htag := splitTag?_written ht (eq_of_mem_head?_written tags)
    have hwritten : (t :: tags).flatMap Tag.written =
        ' ' :: '@' :: (t.name ++ (writtenValue t.value ++ tags.flatMap Tag.written)) := by
      simp [Tag.written]
    have hblank : blocksTag ' ' = false := by decide
    rw [hwritten, pieces_char (by simp), hblank, pieces_tag htag,
      ih fun u hu => htags u (List.mem_cons_of_mem t hu)]
    rfl

theorem pieces_written {text : List Char} (htext : TagFree text)
    (htags : ∀ t ∈ tags, t.WellFormed) :
    pieces false (text ++ tags.flatMap Tag.written) =
      text.map Piece.char ++ tags.flatMap Tag.pieces := by
  have hrest : ∀ c ∈ (tags.flatMap Tag.written).head?, isNameStart c = false := by
    intro c hc
    rw [eq_of_mem_head?_written tags c hc]
    rfl
  obtain ⟨b, hb⟩ := pieces_append_of_tagFree htext hrest
  rw [hb, pieces_tags htags]

theorem filterMap_char?_pieces (text : List Char) (tags : List Tag) :
    (text.map Piece.char ++ tags.flatMap Tag.pieces).filterMap Piece.char? =
      text ++ List.replicate tags.length ' ' := by
  have htext : (text.map Piece.char).filterMap Piece.char? = text := by
    rw [List.filterMap_map]
    exact List.filterMap_some
  have htags : (tags.flatMap Tag.pieces).filterMap Piece.char? =
      List.replicate tags.length ' ' := by
    induction tags with
    | nil => rfl
    | cons t tags ih =>
      rw [List.flatMap_cons, List.filterMap_append, ih]
      rfl
  rw [List.filterMap_append, htext, htags]

theorem filterMap_tag?_pieces (text : List Char) (tags : List Tag) :
    (text.map Piece.char ++ tags.flatMap Tag.pieces).filterMap Piece.tag? = tags := by
  have htext : (text.map Piece.char).filterMap Piece.tag? = [] := by
    rw [List.filterMap_map, List.filterMap_eq_nil_iff]
    exact fun _ _ => rfl
  have htags : (tags.flatMap Tag.pieces).filterMap Piece.tag? = tags := by
    induction tags with
    | nil => rfl
    | cons t tags ih =>
      rw [List.flatMap_cons, List.filterMap_append, ih]
      rfl
  rw [List.filterMap_append, htext, htags]
  rfl

end

/-! ## The description -/

/-- Blanks after a text stand in its last line. -/
theorem describe_append_of_blank (text : List Char) {b : List Char}
    (hb : ∀ c ∈ b, isBlank c = true ∧ isLineBreak c = false) :
    describe (text ++ b) = describe text := by
  obtain ⟨init, last, htext, hmore⟩ := exists_splitWhen_append text fun c hc => (hb c hc).2
  have hlast : collapse (last ++ b) = collapse last :=
    collapse_append_of_blank last fun c hc => (hb c hc).1
  simp only [describe, lines, htext, hmore, List.map_append, List.map_cons, List.map_nil, hlast]

theorem isEmpty_collapse (l : List Char) : (collapse l).isEmpty = l.all isBlank := by
  rw [Bool.eq_iff_iff, List.isEmpty_iff, collapse_eq_nil_iff, List.all_eq_true]

theorem describe_eq (text : List Char) :
    describe text =
      ['\n'].intercalate (((lines text).filter fun l => !l.all isBlank).map collapse) := by
  rw [describe, List.filter_map]
  simp only [Function.comp_def, isEmpty_collapse]

theorem describe_eq_nil_iff {text : List Char} :
    describe text = [] ↔ text.all isBlank = true := by
  have hne : ∀ l ∈ ((lines text).map collapse).filter (fun l => !l.isEmpty), l ≠ [] := by
    intro l hl heq
    have := (List.mem_filter.mp hl).2
    rw [heq] at this
    cases this
  rw [describe, intercalate_eq_nil_iff hne, List.filter_eq_nil_iff, List.all_eq_true,
    ← forall_lines_blank_iff]
  simp [collapse_eq_nil_iff]

theorem nonempty?_describe (text : List Char) : nonempty? (describe text) = described? text := by
  rw [nonempty?, described?, ← describe_eq]
  simp only [List.isEmpty_iff, describe_eq_nil_iff]

/-! ## The tags -/

theorem lookup_firstValues (ps : List (String × String)) (k : String) :
    (firstValues ps).lookup k = ps.lookup k := by
  induction ps with
  | nil => rfl
  | cons p ps ih =>
    obtain ⟨k', v⟩ := p
    rw [firstValues, List.lookup_cons, List.lookup_cons]
    by_cases hk : k = k'
    · rw [hk, beq_self_eq_true]
    · rw [beq_eq_false_iff_ne.mpr hk, ← ih]
      exact lookup_filter (fun v => by simpa using hk) (firstValues ps)

/-- Each name stands where it comes first. -/
theorem firstValues_eq (ps : List (String × String)) :
    firstValues ps = (ps.map (·.1)).eraseDups.map fun k => (k, (ps.lookup k).getD "") := by
  induction ps with
  | nil => rfl
  | cons p ps ih =>
    obtain ⟨k, v⟩ := p
    have hlater : ((ps.map (·.1)).filter fun j => !j == k).eraseDups.map
        (fun j => (j, (((k, v) :: ps).lookup j).getD "")) =
        (firstValues ps).filter fun t => t.1 != k := by
      rw [ih, eraseDups_filter, List.filter_map]
      refine List.map_congr_left fun j hj => ?_
      have hne : (j == k) = false := by simpa using (List.mem_filter.mp hj).2
      rw [List.lookup_cons, hne]
    rw [firstValues, List.map_cons, List.eraseDups_cons, List.map_cons, hlater,
      List.lookup_cons_self]
    rfl

variable {tags : List Tag}

theorem lookup_pairs (tags : List Tag) (name : String) :
    (firstValues (tags.map Tag.pair)).lookup name = valueOf? tags name := by
  rw [lookup_firstValues]
  exact lookup_map_eq_find? Tag.label (fun t => String.ofList (t.value.getD [])) tags name

theorem isSome_valueOf? (tags : List Tag) (name : String) :
    (valueOf? tags name).isSome = tags.any fun t => t.label = name := by
  rw [valueOf?, Option.isSome_map, Bool.eq_iff_iff, List.find?_isSome, List.any_eq_true]

/-- The tags that are kept by name, in the order in which the names come first. -/
theorem extraTags_pairs (tags : List Tag) :
    (firstValues (tags.map Tag.pair)).filter (fun t => !reservedNames.contains t.1) =
      ((tags.map Tag.label).eraseDups.filter fun name =>
        name ∉ ["type", "deprecated", "fixed"]).map fun name =>
          (name, (valueOf? tags name).getD "") := by
  have hlookup : ∀ name, (tags.map Tag.pair).lookup name = valueOf? tags name := by
    intro name
    rw [← lookup_firstValues, lookup_pairs]
  rw [firstValues_eq, List.filter_map, List.map_map]
  simp only [hlookup]
  refine congrArg (List.map _) (List.filter_congr fun name _ => ?_)
  simp [reservedNames]

/-- A text without tags and the tags after it are read back from the comment that they make. -/
theorem ofComment_written {text : List Char} (htext : TagFree text)
    (htags : ∀ t ∈ tags, t.WellFormed) :
    ofComment (some (written text tags)) =
      { description := described? text
        typeOverride := (valueOf? tags "type").filter fun value => value ≠ ""
        deprecated := valueOf? tags "deprecated"
        fixed := tags.any fun t => t.label = "fixed"
        extraTags := ((tags.map Tag.label).eraseDups.filter fun name =>
          name ∉ ["type", "deprecated", "fixed"]).map fun name =>
            (name, (valueOf? tags name).getD "") } := by
  have hdescription : nonempty? (describe (text ++ List.replicate tags.length ' ')) =
      described? text := by
    rw [describe_append_of_blank text, nonempty?_describe]
    intro c hc
    rw [List.eq_of_mem_replicate hc]
    decide
  show ofParts (describe ((pieces false (written text tags).toList).filterMap Piece.char?))
    (((pieces false (written text tags).toList).filterMap Piece.tag?).map Tag.pair) = _
  rw [written, String.toList_ofList, pieces_written htext htags, filterMap_char?_pieces,
    filterMap_tag?_pieces]
  have hempty : (fun value : String => !value.isEmpty) = fun value => decide (value ≠ "") := by
    funext value
    rw [Bool.eq_iff_iff]
    simp
  simp only [ofParts, hdescription, lookup_pairs, isSome_valueOf?, extraTags_pairs, hempty]

/-- Tags of each kind, one of them again and one with another tag in its value. -/
def Tag.several : List Tag :=
  [⟨"type".toList, some "E-mail @fixed".toList⟩, ⟨"deprecated".toList, none⟩,
    ⟨"see-also".toList, some "1:2\n3".toList⟩, ⟨"type".toList, some []⟩, ⟨"owner".toList, none⟩,
    ⟨"see-also".toList, none⟩]

theorem ofComment_written_several :
    TagFree "mail  bob@example.com\n\n @@ all".toList ∧ (∀ t ∈ Tag.several, t.WellFormed) ∧
      ofComment (some
        ("mail  bob@example.com\n\n @@ all @type:\"E-mail @fixed\" @deprecated" ++
          " @see-also:\"1:2\n3\" @type:\"\" @owner @see-also")) =
        { description := some "mail bob@example.com\n@@ all"
          typeOverride := some "E-mail @fixed"
          deprecated := some ""
          extraTags := [("see-also", "1:2\n3"), ("owner", "")] } := by
  have htext : TagFree "mail  bob@example.com\n\n @@ all".toList := by decide +kernel
  have htags : ∀ t ∈ Tag.several, t.WellFormed := by decide +kernel
  refine ⟨htext, htags, ?_⟩
  exact (ofComment_written htext htags).trans (by decide +kernel)

end Remarks
end SchemaLineage
