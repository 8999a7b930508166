import SequenceCheck.Proofs.Text.Replacing
import SequenceCheck.Text.Template

/-!
# What becomes of a template that is filled in turn

Where words stand between the holes of a template, and none of them has a part in a marker, filling
one name after the other amounts to filling each hole by itself: the marker in it is replaced by its
value, and in this the names that come later are filled as well.

Main statements: `fillInTurn_eq_spell` says so, and a value is left as it is by what comes later
exactly if no later marker occurs in it (`fillMarkers_eq_self_iff`).
-/

set_option autoImplicit false

namespace SequenceCheck.Text

/-! ## Texts with markers -/

/-- A text stands within another one. -/
def Occurs (pattern text : String) : Prop :=
  pattern.toList <:+: text.toList

theorem toList_replaceAll (pattern replacement text : String) :
    (replaceAll pattern replacement text).toList =
      replaceAfter pattern.toList replacement.toList 0 text.toList :=
  String.toList_ofList

/-- A text without the pattern is left as it is. -/
theorem replaceAll_of_not_occurs {pattern replacement text : String}
    (absent : ¬ Occurs pattern text) : replaceAll pattern replacement text = text := by
  rw [← String.toList_inj, toList_replaceAll, replaceAfter_of_absent absent]

theorem toList_marker (name : String) :
    (marker name).toList = '\x7b' :: (name.toList ++ ['\x7d']) := by
  simp [marker]

theorem toList_marker_ne_nil (name : String) : (marker name).toList ≠ [] := by
  rw [toList_marker]
  exact List.cons_ne_nil _ _

theorem brace_mem_marker (name : String) : '\x7b' ∈ (marker name).toList := by
  rw [toList_marker]
  exact List.mem_cons_self

/-- A text is left as it is exactly if the marker does not occur in it or is its own replacement. -/
theorem replaceAll_marker_eq_self_iff {name value text : String} :
    replaceAll (marker name) value text = text ↔
      (Occurs (marker name) text → value = marker name) := by
  rw [← String.toList_inj, toList_replaceAll, replaceAfter_eq_self_iff (toList_marker_ne_nil name),
    String.toList_inj, Occurs]

/-- A text has no opening brace. -/
def Plain (text : String) : Prop :=
  '\x7b' ∉ text.toList

instance (text : String) : Decidable (Plain text) :=
  inferInstanceAs (Decidable (_ ∉ _))

theorem plain_append_iff {text rest : String} : Plain (text ++ rest) ↔ Plain text ∧ Plain rest := by
  rw [Plain, String.toList_append, List.mem_append, not_or]
  rfl

/-- Plain texts are put together as a plain text. -/
theorem plain_intercalate {between : String} (plain : Plain between) {items : List String}
    (each : ∀ item ∈ items, Plain item) : Plain (String.intercalate between items) := by
  induction items with
  | nil => exact List.not_mem_nil
  | cons item rest ih =>
    obtain ⟨first, others⟩ := List.forall_mem_cons.1 each
    cases rest with
    | nil =>
      rw [String.intercalate_singleton]
      exact first
    | cons next later =>
      rw [String.intercalate_cons_cons, plain_append_iff, plain_append_iff]
      exact ⟨⟨first, plain⟩, ih others⟩

/-- A plain text has no markers. -/
theorem not_occurs_of_plain {name text : String} (plain : Plain text) :
    ¬ Occurs (marker name) text :=
  fun occurs => plain (occurs.subset (brace_mem_marker name))

theorem replaceAll_marker_self (name value : String) :
    replaceAll (marker name) value (marker name) = value := by
  rw [← String.toList_inj, toList_replaceAll]
  have whole : replaceAfter (marker name).toList value.toList 0 ((marker name).toList ++ []) =
      value.toList ++ replaceAfter (marker name).toList value.toList 0 [] :=
    replaceAfter_pattern_append (toList_marker_ne_nil name)
  rw [List.append_nil, replaceAfter_nil, List.append_nil] at whole
  exact whole

/-- A name has no braces. -/
def Braceless (name : String) : Prop :=
  '\x7b' ∉ name.toList ∧ '\x7d' ∉ name.toList

instance (name : String) : Decidable (Braceless name) :=
  inferInstanceAs (Decidable (_ ∧ _))

/-- A marker does not occur in the marker of another name. -/
theorem not_occurs_marker {name other : String}
    (different : Braceless name ∧ Braceless other ∧ name ≠ other) :
    ¬ Occurs (marker name) (marker other) := by
  obtain ⟨plain, otherPlain, different⟩ := different
  intro occurs
  rw [Occurs, toList_marker, toList_marker] at occurs
  rcases List.infix_cons_iff.1 occurs with whole | later
  · -- Both names end at the first closing brace.
    obtain ⟨_, _, same⟩ := List.cons_prefix_cons.1 whole
    rw [List.append_assoc, List.singleton_append] at same
    rcases List.append_eq_append_iff.1 same with ⟨beyond, split, ends⟩ | ⟨beyond, split, ends⟩
    · cases beyond with
      | nil => exact different (String.toList_inj.1 (by simpa using split.symm))
      | cons first others =>
        obtain ⟨rfl, _⟩ := List.cons.inj ends
        exact otherPlain.2 (split ▸ List.mem_append_cons_self)
    · cases beyond with
      | nil => exact different (String.toList_inj.1 (by simpa using split))
      | cons first others =>
        obtain ⟨rfl, _⟩ := List.cons.inj ends
        exact plain.2 (split ▸ List.mem_append_cons_self)
  · have brace := later.subset List.mem_cons_self
    simp [otherPlain.1] at brace

/-! ## Names that are filled in turn -/

/-- Replace one marker after the other in a text. -/
def fillMarkers (values : List (String × String)) (text : String) : String :=
  values.foldl (fun text entry => replaceAll (marker entry.1) entry.2 text) text

theorem fillMarkers_nil (text : String) : fillMarkers [] text = text :=
  rfl

theorem fillMarkers_cons (entry : String × String) (values : List (String × String))
    (text : String) :
    fillMarkers (entry :: values) text =
      fillMarkers values (replaceAll (marker entry.1) entry.2 text) :=
  rfl

/-- The marker of the first name is replaced, and in its value the other names are filled. -/
theorem fillMarkers_cons_self (name value : String) (values : List (String × String)) :
    fillMarkers ((name, value) :: values) (marker name) = fillMarkers values value := by
  rw [fillMarkers_cons, replaceAll_marker_self]

/-- The marker of another name is left for later. -/
theorem fillMarkers_cons_of_ne {name other : String}
    (different : Braceless name ∧ Braceless other ∧ name ≠ other) (value : String)
    (values : List (String × String)) :
    fillMarkers ((name, value) :: values) (marker other) = fillMarkers values (marker other) := by
  rw [fillMarkers_cons, replaceAll_of_not_occurs (not_occurs_marker different)]

/-- A text in which no marker occurs is left as it is. -/
theorem fillMarkers_of_forall {values : List (String × String)} {text : String}
    (absent : ∀ entry ∈ values, ¬ Occurs (marker entry.1) text) :
    fillMarkers values text = text := by
  induction values with
  | nil => rfl
  | cons entry rest ih =>
    obtain ⟨first, others⟩ := List.forall_mem_cons.1 absent
    rw [fillMarkers_cons, replaceAll_of_not_occurs first, ih others]

theorem fillMarkers_of_plain {text : String} (plain : Plain text)
    (values : List (String × String)) : fillMarkers values text = text :=
  fillMarkers_of_forall fun _ _ => not_occurs_of_plain plain

/-- Plain values make opening braces no more, and fewer where a marker occurs. -/
theorem count_fillMarkers {values : List (String × String)}
    (plain : ∀ entry ∈ values, Plain entry.2) (text : String) :
    (fillMarkers values text).toList.count '\x7b' ≤ text.toList.count '\x7b' ∧
      ((∃ entry ∈ values, Occurs (marker entry.1) text) →
        (fillMarkers values text).toList.count '\x7b' < text.toList.count '\x7b') := by
  induction values generalizing text with
  | nil => exact ⟨le_refl _, by simp⟩
  | cons entry rest ih =>
    obtain ⟨first, others⟩ := List.forall_mem_cons.1 plain
    obtain ⟨fewer, rarer⟩ := count_replaceAfter (brace_mem_marker entry.1) first text.toList
    rw [← toList_replaceAll] at fewer rarer
    rw [fillMarkers_cons]
    obtain ⟨laterFewer, laterRarer⟩ := ih others (replaceAll (marker entry.1) entry.2 text)
    refine ⟨laterFewer.trans fewer, ?_⟩
    rintro ⟨found, mem, occurs⟩
    by_cases here : Occurs (marker entry.1) text
    · exact laterFewer.trans_lt (rarer here)
    · -- Nothing is replaced at first, so the marker still occurs.
      rw [replaceAll_of_not_occurs here] at laterRarer ⊢
      rcases List.mem_cons.1 mem with rfl | later
      · exact absurd occurs here
      · exact laterRarer ⟨found, later, occurs⟩

/-- Plain values leave a text as it is exactly if none of their markers occurs in it. -/
theorem fillMarkers_eq_self_iff {values : List (String × String)}
    (plain : ∀ entry ∈ values, Plain entry.2) {text : String} :
    fillMarkers values text = text ↔ ∀ entry ∈ values, ¬ Occurs (marker entry.1) text := by
  refine ⟨?_, fillMarkers_of_forall⟩
  intro same entry mem occurs
  have rarer := (count_fillMarkers plain text).2 ⟨entry, mem, occurs⟩
  rw [same] at rarer
  exact lt_irrefl _ rarer

/-! ## Templates -/

/-- The text of a piece, with a given content if it is a hole. -/
def Piece.spell (content : String → String) : Piece → String
  | .text words => words
  | .hole name => content name

/-- Words have no part in the marker of a name: they have no brace, and they begin and end with
characters that are not in the marker. -/
def apartFrom (name words : String) : Bool :=
  !words.toList.contains '\x7b' &&
    (words.toList.head?.any fun c => !(marker name).toList.contains c) &&
    (words.toList.getLast?.any fun c => !(marker name).toList.contains c)

namespace Template

/-- The text of a template with given contents in its holes. -/
def spell (template : Template) (content : String → String) : String :=
  String.join (template.map (Piece.spell content))

/-- A template begins with a hole. -/
def startsWithHole : Template → Bool
  | .hole _ :: _ => true
  | _ => false

/-- No two holes follow each other, and no words have a part in the marker of a name. -/
def apart (name : String) : Template → Bool
  | [] => true
  | .text words :: rest => apartFrom name words && apart name rest
  | .hole _ :: rest => !startsWithHole rest && apart name rest

theorem toList_spell_cons (piece : Piece) (rest : Template) (content : String → String) :
    (spell (piece :: rest) content).toList =
      (piece.spell content).toList ++ (rest.spell content).toList := by
  rw [spell, spell, String.toList_join, String.toList_join, List.map_cons, List.flatMap_cons]

theorem wording_eq_spell (template : Template) : template.wording = template.spell marker := by
  rw [wording, spell]
  congr 1

/-- What words consist of that have no part in a marker. -/
theorem exists_of_apartFrom {name words : String} (away : apartFrom name words = true) :
    '\x7b' ∉ words.toList ∧
      (∃ c rest, words.toList = c :: rest ∧ c ∉ (marker name).toList) ∧
      ∃ before c, words.toList = before ++ [c] ∧ c ∉ (marker name).toList := by
  rw [apartFrom, Bool.and_eq_true, Bool.and_eq_true, Option.any_eq_true, Option.any_eq_true] at away
  obtain ⟨⟨plain, first, head, foreign⟩, last, ends, alien⟩ := away
  rw [Bool.not_eq_true', Bool.eq_false_iff, ne_eq, List.contains_iff_mem] at plain foreign alien
  obtain ⟨rest, begins⟩ := List.head?_eq_some_iff.1 head
  obtain ⟨before, closes⟩ := List.getLast?_eq_some_iff.1 ends
  exact ⟨plain, ⟨first, rest, begins, foreign⟩, before, last, closes, alien⟩

/-- What follows a hole begins with a character that is not in a marker. -/
theorem head_spell {name : String} {rest : Template} (content : String → String)
    (words : startsWithHole rest = false) (away : rest.apart name = true) :
    ∀ c ∈ (rest.spell content).toList.head?, c ∉ (marker name).toList := by
  cases rest with
  | nil => simp [spell]
  | cons piece later =>
    cases piece with
    | hole other => cases words
    | text first =>
      rw [apart, Bool.and_eq_true] at away
      obtain ⟨_, ⟨c, others, begins, foreign⟩, _⟩ := exists_of_apartFrom away.1
      rw [toList_spell_cons, Piece.spell, begins]
      intro other head
      obtain rfl := Option.some.inj head
      exact foreign

/-- Filling the markers of a name in a template fills them in each hole by itself. -/
theorem replaceAll_spell {name : String} {template : Template} (away : template.apart name = true)
    (value : String) (content : String → String) :
    replaceAll (marker name) value (template.spell content) =
      template.spell fun hole => replaceAll (marker name) value (content hole) := by
  have nonempty := toList_marker_ne_nil name
  induction template with
  | nil => rfl
  | cons piece rest ih =>
    rw [← String.toList_inj, toList_replaceAll, toList_spell_cons, toList_spell_cons]
    cases piece with
    | text words =>
      rw [apart, Bool.and_eq_true] at away
      obtain ⟨plain, _, before, last, closes, alien⟩ := exists_of_apartFrom away.1
      have absent : ¬ (marker name).toList <:+: before := by
        intro occurs
        apply plain
        rw [closes]
        exact List.mem_append_left _ (occurs.subset (brace_mem_marker name))
      rw [Piece.spell, closes, List.append_assoc, List.singleton_append,
        replaceAfter_append_cons nonempty alien, replaceAfter_of_absent absent,
        ← toList_replaceAll, ih away.2, Piece.spell, closes, List.append_assoc,
        List.singleton_append]
    | hole other =>
      rw [apart, Bool.and_eq_true, Bool.not_eq_true'] at away
      rw [replaceAfter_append nonempty (head_spell content away.1 away.2), ← toList_replaceAll,
        ← toList_replaceAll, ih away.2]
      rfl

/-- A template that is filled in turn has in each hole what becomes of its marker. -/
theorem fillInTurn_eq_spell {template : Template} {values : List (String × String)}
    (away : ∀ name ∈ values.map Prod.fst, template.apart name = true) :
    template.fillInTurn values = template.spell fun hole => fillMarkers values (marker hole) := by
  have each : ∀ content, values.foldl
      (fun text entry => replaceAll (marker entry.1) entry.2 text) (template.spell content) =
        template.spell fun hole => fillMarkers values (content hole) := by
    induction values with
    | nil =>
      intro content
      rfl
    | cons entry rest ih =>
      intro content
      obtain ⟨first, others⟩ := List.forall_mem_cons.1 away
      rw [List.foldl_cons, replaceAll_spell first, ih others]
      rfl
  rw [fillInTurn, wording_eq_spell, each]

end Template

end SequenceCheck.Text
