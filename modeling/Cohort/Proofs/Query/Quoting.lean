import Cohort.Proofs.Query.Spelling
import Cohort.Proofs.Rule.References
import Cohort.Proofs.Text.Blank
import Cohort.Text.Parts

/-!
# Quotes in query texts

Cut at its single quotes, a text is by turns outside of quotes (`unquoted`) and inside (`quotations`). `Shields cs ns`
says that the quotes in `cs` close, that they hold the names `ns`, and that nothing outside of them can open a quote, a
comment or another statement. It is kept when texts are put one after the other, so it holds of every readable
predicate with the names of its columns (`Predicate.shields_text`).

* `membershipQuery_confined`: whatever stands in the definitions and in the rules, the quotes of a query hold safe names
  of attributes that the rules refer to, and nothing else in its text can break out.
-/

namespace Cohort

open Sql

/-! ## Inside and outside -/

mutual

/-- The first part and every second one after it. -/
def outerParts {α : Type} : List α → List α
  | [] => []
  | p :: ps => p :: innerParts ps

/-- The second part and every second one after it. -/
def innerParts {α : Type} : List α → List α
  | [] => []
  | _ :: ps => outerParts ps

end

/-- The parts of a text between its single quotes. -/
def quoteParts (cs : List Char) : List (List Char) := Text.parts (fun c => c == '\'') cs

/-- What stands outside of the single quotes of a text. -/
def unquoted (text : String) : List Char := (outerParts (quoteParts text.toList)).flatten

/-- What stands inside of each pair of single quotes of a text. -/
def quotations (text : String) : List String := (innerParts (quoteParts text.toList)).map String.ofList

theorem quoteParts_cons {c : Char} (hc : c ≠ '\'') (cs : List Char) :
    ∃ p ps, quoteParts cs = p :: ps ∧ quoteParts (c :: cs) = (c :: p) :: ps := by
  obtain ⟨p, ps, h⟩ := List.exists_cons_of_ne_nil (Text.parts_ne_nil (fun c => c == '\'') cs)
  refine ⟨p, ps, h, ?_⟩
  rw [quoteParts, Text.parts, if_neg (by simpa using hc), h]

theorem quoteParts_quote (cs : List Char) : quoteParts ('\'' :: cs) = [] :: quoteParts cs := by
  rw [quoteParts, Text.parts, if_pos (by decide)]
  rfl

/-- A text up to its first quote. -/
theorem quoteParts_append (cs : List Char) : ∀ {name : List Char}, (∀ c ∈ name, c ≠ '\'') →
    quoteParts (name ++ '\'' :: cs) = name :: quoteParts cs
  | [], _ => quoteParts_quote cs
  | c :: name, h => by
    have ih := quoteParts_append cs fun x hx => h x (List.mem_cons_of_mem c hx)
    obtain ⟨p, ps, hp, hc⟩ := quoteParts_cons (h c List.mem_cons_self) (name ++ '\'' :: cs)
    rw [ih] at hp
    cases hp
    exact hc

/-! ## Texts that shield their names -/

/-- A character that starts neither a quotation nor a comment nor another statement. -/
def isHarmless (c : Char) : Bool := decide (c ∉ ['\'', '"', ';', '\\', '-', '/', '*'])

/-- **A text whose quotes close and hold some names**, with nothing harmful outside of them. The only minus sign there
is that of an arrow. -/
inductive Shields : List Char → List String → Prop
  | nil : Shields [] []
  | char {c : Char} {cs : List Char} {ns : List String} : isHarmless c = true → Shields cs ns → Shields (c :: cs) ns
  | arrow {cs : List Char} {ns : List String} : Shields cs ns → Shields ('-' :: '>' :: cs) ns
  | quote {name : String} {cs : List Char} {ns : List String} : (∀ c ∈ name.toList, c ≠ '\'') → Shields cs ns →
      Shields ('\'' :: (name.toList ++ '\'' :: cs)) (name :: ns)

namespace Shields

variable {cs ds : List Char} {ns ms : List String}

theorem append (h : Shields cs ns) (h' : Shields ds ms) : Shields (cs ++ ds) (ns ++ ms) := by
  induction h with
  | nil => exact h'
  | char hc _ ih => exact .char hc ih
  | arrow _ ih => exact .arrow ih
  | quote hn _ ih =>
    rw [List.cons_append, List.append_assoc]
    exact .quote hn ih

theorem of_harmless : ∀ {cs : List Char}, cs.all isHarmless = true → Shields cs []
  | [], _ => .nil
  | c :: cs, h => by
    rw [List.all_cons, Bool.and_eq_true] at h
    exact .char h.1 (of_harmless h.2)

/-- Texts with a harmless one between them. -/
theorem intercalate {α : Type} {separator : List Char} (hs : separator.all isHarmless = true) {f : α → List Char}
    {g : α → List String} : ∀ {xs : List α}, (∀ x ∈ xs, Shields (f x) (g x)) →
      Shields (separator.intercalate (xs.map f)) (xs.flatMap g)
  | [], _ => .nil
  | [x], h => by
    simpa using h x List.mem_cons_self
  | x :: y :: xs, h => by
    have hx := h x List.mem_cons_self
    have ih := intercalate hs fun z hz => h z (List.mem_cons_of_mem x hz)
    have := (hx.append (of_harmless hs)).append ih
    simpa [List.intercalate_cons_cons] using this

/-- The names stand inside of the quotes, and what is outside of them is shielded, too. -/
theorem parts (h : Shields cs ns) : (innerParts (quoteParts cs)).map String.ofList = ns ∧
    Shields (outerParts (quoteParts cs)).flatten [] := by
  induction h with
  | nil => exact ⟨rfl, .nil⟩
  | @char c cs _ hc _ ih =>
    have hne : c ≠ '\'' := by
      rintro rfl
      exact absurd hc (by decide)
    obtain ⟨p, ps, hp, hcons⟩ := quoteParts_cons hne cs
    rw [hp] at ih
    rw [hcons]
    exact ⟨ih.1, .char hc ih.2⟩
  | @arrow cs _ _ ih =>
    obtain ⟨p, ps, hp, hcons⟩ := quoteParts_cons (by decide : '>' ≠ '\'') cs
    obtain ⟨p', ps', hp', hcons'⟩ := quoteParts_cons (by decide : '-' ≠ '\'') ('>' :: cs)
    rw [hcons] at hp'
    cases hp'
    rw [hp] at ih
    rw [hcons']
    exact ⟨ih.1, .arrow ih.2⟩
  | @quote name cs _ hn _ ih =>
    rw [quoteParts_quote, quoteParts_append cs hn]
    refine ⟨?_, ih.2⟩
    show String.ofList name.toList :: _ = _
    rw [String.ofList_toList, ih.1]

theorem count_quotes (h : Shields cs ns) : cs.count '\'' = 2 * ns.length := by
  induction h with
  | nil => rfl
  | @char c _ _ hc _ ih =>
    have hne : c ≠ '\'' := by
      rintro rfl
      exact absurd hc (by decide)
    rw [List.count_cons_of_ne hne, ih]
  | arrow _ ih => rw [List.count_cons_of_ne (by decide), List.count_cons_of_ne (by decide), ih]
  | @quote name _ _ hn _ ih =>
    have hname : name.toList.count '\'' = 0 := List.count_eq_zero.2 fun hmem => hn _ hmem rfl
    rw [List.count_cons_self, List.count_append, hname, List.count_cons_self, ih, List.length_cons]
    omega

/-- Without quotes, every character is harmless or part of an arrow. -/
theorem harmless (h : Shields cs []) : ∀ c ∈ cs, isHarmless c = true ∨ c = '-' := by
  generalize hns : ([] : List String) = ns at h
  induction h with
  | nil => simp
  | char hc _ ih => exact List.forall_mem_cons.2 ⟨.inl hc, ih hns⟩
  | arrow _ ih => exact List.forall_mem_cons.2 ⟨.inr rfl, List.forall_mem_cons.2 ⟨.inl (by decide), ih hns⟩⟩
  | quote => cases hns

/-- Without quotes, there are no two minus signs one after the other. -/
theorem no_dashes (h : Shields cs []) : ¬['-', '-'] <:+: cs := by
  generalize hns : ([] : List String) = ns at h
  induction h with
  | nil => simp
  | char hc _ ih =>
    rw [List.infix_cons_iff, List.cons_prefix_cons]
    rintro (⟨rfl, _⟩ | h)
    · exact absurd hc (by decide)
    · exact ih hns h
  | arrow _ ih =>
    rw [List.infix_cons_iff, List.infix_cons_iff, List.cons_prefix_cons, List.cons_prefix_cons, List.cons_prefix_cons]
    rintro (⟨_, h, _⟩ | ⟨h, _⟩ | h)
    · exact absurd h (by decide)
    · exact absurd h (by decide)
    · exact ih hns h
  | quote => cases hns

end Shields

/-! ## Predicates -/

mutual

/-- The names of the attributes of a predicate, in the order of its text. -/
def Predicate.names : Predicate → List String
  | .never => []
  | .nullCheck column _ => [column.name]
  | .comparison column _ _ => [column.name]
  | .membership column _ => [column.name]
  | .joined _ ps => Predicate.allNames ps
  | .related _ _ outer inner _ ps => [outer.name] ++ [inner.name] ++ Predicate.allNames ps

/-- The names of the attributes of predicates, in the order of their texts. -/
def Predicate.allNames : List Predicate → List String
  | [] => []
  | p :: ps => p.names ++ Predicate.allNames ps

end

theorem Predicate.allNames_eq_flatMap (ps : List Predicate) :
    Predicate.allNames ps = ps.flatMap Predicate.names := by
  induction ps with
  | nil => rfl
  | cons p ps ih => rw [Predicate.allNames, ih, List.flatMap_cons]

theorem isHarmless_of_isWordChar {c : Char} (h : isWordChar c = true) : isHarmless c = true := by
  rw [isHarmless, decide_eq_true_eq]
  intro hmem
  have hall : ['\'', '"', ';', '\\', '-', '/', '*'].all (fun x => !isWordChar x) = true := by decide
  have := List.all_eq_true.1 hall c hmem
  rw [h] at this
  cases this

theorem all_harmless_of_isName {s : String} (h : isName s = true) : s.toList.all isHarmless = true := by
  have hw := (ofWord_of_isName h).1
  rw [isWord] at hw
  cases hs : s.toList with
  | nil => rfl
  | cons c cs =>
    rw [hs] at hw
    simp only [Bool.and_eq_true, List.all_eq_true] at hw
    have hc : isWordChar c = true := by
      have := hw.1
      simp only [isLetter, isWordChar, Char.isAlphanum, Bool.or_eq_true] at this ⊢
      tauto
    rw [List.all_cons, Bool.and_eq_true, List.all_eq_true]
    exact ⟨isHarmless_of_isWordChar hc, fun x hx => isHarmless_of_isWordChar (hw.2 x hx)⟩

theorem all_harmless_digits (n : Nat) : (Numeral.digits n).all isHarmless = true := by
  rw [List.all_eq_true]
  intro c hc
  exact isHarmless_of_isWordChar (isWordChar_of_isDecimal (Numeral.isDecimal_of_mem_digits n hc))

theorem shields_placeholder (n : Nat) : Shields (placeholder n).toList [] := by
  have h : (placeholder n).toList = '$' :: Numeral.digits n := by simp [placeholder, Numeral.natText]
  rw [h]
  exact .char (by decide) (.of_harmless (all_harmless_digits n))

theorem shields_sql (op : Operator) : Shields op.sql.toList [] := by
  refine .of_harmless ?_
  cases op <;> decide

theorem shields_cast (kind : AttributeKind) : Shields (kind.cast.getD "").toList [] := by
  refine .of_harmless ?_
  cases kind <;> decide

/-- The text of a column quotes its name. -/
theorem Column.shields_text {c : Column} (h : c.Readable) : Shields c.text.toList [c.name] := by
  obtain ⟨kind, hcast⟩ := h.cast
  have hrow : Shields c.row.text.toList [] := .of_harmless (all_harmless_of_isName h.row)
  have hfield : Shields ".attributes".toList [] := .of_harmless (by decide)
  have hquote : Shields ('-' :: '>' :: '>' :: '\'' :: (c.name.toList ++ '\'' :: ')' :: (c.cast.getD "").toList))
      [c.name] := by
    rw [hcast]
    exact .arrow (.char (by decide) (.quote h.name (.char (by decide) (shields_cast kind))))
  have := Shields.char (by decide : isHarmless '(' = true) ((hrow.append hfield).append hquote)
  simpa [Column.text] using this

theorem shields_entityTest {row : Alias} (hrow : isName row.text = true) (entity : Nat) :
    Shields (entityTest row entity).toList [] := by
  have hname : Shields row.text.toList [] := .of_harmless (all_harmless_of_isName hrow)
  have hfield : Shields ".entity_definition_id = ".toList [] := .of_harmless (by decide)
  have := (hname.append hfield).append (shields_placeholder entity)
  simpa [entityTest] using this

theorem shields_joinTexts (k : Connective) {ps : List Predicate} (h : ∀ p ∈ ps, Shields p.text.toList p.names) :
    Shields (joinTexts k (Predicate.texts ps)).toList (Predicate.allNames ps) := by
  rw [toList_joinTexts, Predicate.allNames_eq_flatMap]
  exact .intercalate (by cases k <;> decide) h

/-- Predicates in parentheses behind some text, if there are any. -/
theorem shields_group (k : Connective) {ps : List Predicate} (h : ∀ p ∈ ps, Shields p.text.toList p.names) :
    Shields (if ps.isEmpty then "" else " AND (" ++ joinTexts k (Predicate.texts ps) ++ ")").toList
      (Predicate.allNames ps) := by
  cases ps with
  | nil => exact .nil
  | cons p ps =>
    have hopen : Shields " AND (".toList [] := .of_harmless (by decide)
    have hclose : Shields ")".toList [] := .of_harmless (by decide)
    have := (hopen.append (shields_joinTexts k h)).append hclose
    simpa using this

theorem shields_parameters (ns : List Nat) : Shields (", ".intercalate (ns.map placeholder)).toList [] := by
  have h : Shields ((", ".toList).intercalate (ns.map fun n => (placeholder n).toList)) (ns.flatMap fun _ => []) :=
    .intercalate (by decide) fun n _ => shields_placeholder n
  rw [List.flatMap_eq_nil_iff.2 fun _ _ => rfl] at h
  simpa [String.toList_intercalate, Function.comp_def] using h

mutual

/-- **The text of a predicate quotes the names of its columns and nothing else.** -/
theorem Predicate.shields_text : ∀ {p : Predicate}, p.Readable → Shields p.text.toList p.names
  | .never, _ => .of_harmless (by decide)
  | .nullCheck column op, ⟨hc, _⟩ => by
    have hblank : Shields " ".toList [] := .of_harmless (by decide)
    have := ((column.shields_text hc).append hblank).append (shields_sql op)
    simpa [Predicate.text_nullCheck, Predicate.names] using this
  | .comparison column op n, ⟨hc, _⟩ => by
    have hblank : Shields " ".toList [] := .of_harmless (by decide)
    have := ((((column.shields_text hc).append hblank).append (shields_sql op)).append hblank).append
      (shields_placeholder n)
    simpa [Predicate.text_comparison, Predicate.names] using this
  | .membership column ns, ⟨hc, _⟩ => by
    have hblank : Shields " ".toList [] := .of_harmless (by decide)
    have hopen : Shields " (".toList [] := .of_harmless (by decide)
    have hclose : Shields ")".toList [] := .of_harmless (by decide)
    have := (((((column.shields_text hc).append hblank).append (shields_sql .among)).append hopen).append
      (shields_parameters ns)).append hclose
    simpa [Predicate.text_membership, Predicate.names] using this
  | .joined k ps, ⟨_, hps⟩ => by
    have hopen : Shields "(".toList [] := .of_harmless (by decide)
    have hclose : Shields ")".toList [] := .of_harmless (by decide)
    have := (hopen.append (shields_joinTexts k (Predicate.shields_texts hps))).append hclose
    simpa [Predicate.text_joined, Predicate.names] using this
  | .related row entity outer inner k ps, ⟨hrow, ⟨ho, _⟩, ⟨hi, _⟩, hps⟩ => by
    have hselect : Shields ("EXISTS (SELECT 1 FROM " ++ rowTable ++ " ").toList [] := .of_harmless (by decide)
    have hname : Shields row.text.toList [] := .of_harmless (all_harmless_of_isName hrow)
    have hwhere : Shields " WHERE ".toList [] := .of_harmless (by decide)
    have hand : Shields " AND ".toList [] := .of_harmless (by decide)
    have hequal : Shields " = ".toList [] := .of_harmless (by decide)
    have hclose : Shields ")".toList [] := .of_harmless (by decide)
    have hrows := (((hselect.append hname).append hwhere).append (shields_entityTest hrow entity)).append hand
    have hkeys := ((outer.shields_text ho).append hequal).append (inner.shields_text hi)
    have := ((hrows.append hkeys).append (shields_group k (Predicate.shields_texts hps))).append hclose
    rw [Predicate.text_related]
    simpa [Predicate.names] using this

/-- The texts of predicates quote the names of their columns and nothing else. -/
theorem Predicate.shields_texts : ∀ {ps : List Predicate}, Predicate.AllReadable ps →
    ∀ p ∈ ps, Shields p.text.toList p.names
  | p :: ps, ⟨hp, hps⟩, q, hq => by
    rcases List.mem_cons.1 hq with hq | hq
    · exact hq ▸ Predicate.shields_text hp
    · exact Predicate.shields_texts hps q hq

end

/-- The text of a query quotes the names of its columns and nothing else. -/
theorem shields_membershipText {row : Alias} (hrow : isName row.text = true) (entity : Nat) {c : Clause}
    (h : Predicate.AllReadable c.parts) :
    Shields (membershipText row entity c).toList (Predicate.allNames c.parts) := by
  have hselect : Shields ("SELECT id FROM " ++ rowTable ++ " ").toList [] := .of_harmless (by decide)
  have hname : Shields row.text.toList [] := .of_harmless (all_harmless_of_isName hrow)
  have hwhere : Shields " WHERE ".toList [] := .of_harmless (by decide)
  have := (((hselect.append hname).append hwhere).append (shields_entityTest hrow entity)).append
    (shields_group c.connective (Predicate.shields_texts h))
  rw [membershipText_eq, Clause.text]
  simpa using this

/-! ## Where the names come from -/

/-- An attribute under one of some identifiers, or one that a relationship under one of some others joins by. -/
def Definitions.Serves (d : Definitions) (attributeIds relationshipIds : List Uuid) (a : Attribute) : Prop :=
  (∃ id ∈ attributeIds, d.attribute? id = some a) ∨
    ∃ id ∈ relationshipIds, ∃ r, d.relationship? id = some r ∧
      (d.attribute? r.sourceAttributeId = some a ∨ d.attribute? r.targetAttributeId = some a)

theorem Definitions.Serves.mono {d : Definitions} {as as' ks ks' : List Uuid} {a : Attribute} (h : d.Serves as ks a)
    (has : as ⊆ as') (hks : ks ⊆ ks') : d.Serves as' ks' a := by
  rcases h with ⟨id, hid, ha⟩ | ⟨id, hid, h⟩
  · exact .inl ⟨id, has hid, ha⟩
  · exact .inr ⟨id, hks hid, h⟩

/-- A safe name of an attribute that rules refer to. -/
def Rule.Lends (d : Definitions) (rs : List Rule) (name : String) : Prop :=
  ∃ a, d.Serves (Rule.allAttributeIds rs) (Rule.allRelationshipIds rs) a ∧ a.name = name ∧ isSafeName name = true

theorem Rule.Lends.mono {d : Definitions} {rs rs' : List Rule} {name : String} (h : Rule.Lends d rs name)
    (has : Rule.allAttributeIds rs ⊆ Rule.allAttributeIds rs')
    (hks : Rule.allRelationshipIds rs ⊆ Rule.allRelationshipIds rs') : Rule.Lends d rs' name := by
  obtain ⟨a, ha, hname⟩ := h
  exact ⟨a, ha.mono has hks, hname⟩

/-- Both names of a join are names of attributes that its relationship joins by. -/
theorem Definitions.join_lends {d : Definitions} {scope id : Uuid} {join : Join} (h : d.join scope id = .ok join)
    (c : Criteria) (rs : List Rule) :
    Rule.Lends d (.related id c :: rs) join.localKey ∧ Rule.Lends d (.related id c :: rs) join.relatedKey := by
  obtain ⟨r, t, here, there, hr, ht, hhere, _, hsafe, hthere, _, hsafe', rfl⟩ := Definitions.join_ok h
  have hid : id ∈ Rule.allRelationshipIds (.related id c :: rs) := by
    obtain ⟨_, _, ss⟩ := c
    exact List.mem_cons_self
  rcases Relationship.from?_attributes ht with ⟨hl, hrel⟩ | ⟨hl, hrel⟩
  · rw [hl] at hhere
    rw [hrel] at hthere
    exact ⟨⟨here, .inr ⟨id, hid, r, hr, .inl hhere⟩, rfl, hsafe⟩,
      ⟨there, .inr ⟨id, hid, r, hr, .inr hthere⟩, rfl, hsafe'⟩⟩
  · rw [hl] at hhere
    rw [hrel] at hthere
    exact ⟨⟨here, .inr ⟨id, hid, r, hr, .inr hhere⟩, rfl, hsafe⟩,
      ⟨there, .inr ⟨id, hid, r, hr, .inl hthere⟩, rfl, hsafe'⟩⟩

theorem Test.names_predicate {row : Alias} {n : Nat} {t : Test} {name : String} (h : name ∈ (t.predicate row n).names) :
    name = t.subject.name := by
  obtain ⟨a, k⟩ := t
  cases k with
  | nullCheck op => exact List.mem_singleton.1 h
  | value op p => exact List.mem_singleton.1 h
  | among ps =>
    cases ps with
    | nil => cases h
    | cons p ps => exact List.mem_singleton.1 h

theorem allNames_splice (k : Connective) : ∀ ps : List Predicate,
    Predicate.allNames (Builder.splice k ps) = Predicate.allNames ps
  | [] => rfl
  | [_] => rfl
  | _ :: _ :: _ => List.append_nil _

theorem Predicate.allNames_append (ps qs : List Predicate) :
    Predicate.allNames (ps ++ qs) = Predicate.allNames ps ++ Predicate.allNames qs := by
  simp only [Predicate.allNames_eq_flatMap, List.flatMap_append]

/-- **Every name in what rules are built into is a safe name of an attribute that they refer to.** -/
theorem Builder.Builds.names {d : Definitions} {row : Alias} {scope : Uuid} {rs : List Rule} {b b' : Builder}
    {ps : List Predicate} (h : Builder.Builds d row scope rs b ps b') :
    ∀ name ∈ Predicate.allNames ps, Rule.Lends d rs name := by
  induction h with
  | nil => simp [Predicate.allNames]
  | @condition _ _ c t rs _ _ _ ht _ ih =>
    intro name hname
    rcases List.mem_append.1 hname with hname | hname
    · obtain ⟨ha, _, hsafe, _⟩ := Condition.resolve_ok ht
      obtain rfl := Test.names_predicate hname
      exact ⟨t.subject, .inl ⟨c.attributeId, List.mem_cons_self, ha⟩, rfl, hsafe⟩
    · exact (ih name hname).mono (List.subset_append_right _ _) (List.subset_append_right _ _)
  | @nested _ _ c rs _ _ _ _ _ _ _ ihc ih =>
    obtain ⟨_, k, ss⟩ := c
    intro name hname
    rw [Predicate.allNames_append, allNames_splice] at hname
    rcases List.mem_append.1 hname with hname | hname
    · exact (ihc name hname).mono (List.subset_append_left _ _) (List.subset_append_left _ _)
    · exact (ih name hname).mono (List.subset_append_right _ _) (List.subset_append_right _ _)
  | @related _ _ id join c rs _ _ _ _ _ hj _ _ ihc ih =>
    obtain ⟨hlocal, hrelated⟩ := Definitions.join_lends hj c rs
    obtain ⟨_, k, ss⟩ := c
    intro name hname
    rw [Predicate.allNames, Predicate.names] at hname
    simp only [List.mem_append, List.mem_singleton] at hname
    rcases hname with ((rfl | rfl) | hname) | hname
    · exact hlocal
    · exact hrelated
    · have hks : Rule.allRelationshipIds ss ⊆ id :: Rule.allRelationshipIds ss := List.subset_cons_self _ _
      exact (ihc name hname).mono (List.subset_append_left _ _) (List.Subset.trans hks (List.subset_append_left _ _))
    · exact (ih name hname).mono (List.subset_append_right _ _) (List.subset_append_right _ _)

/-! ## Queries -/

/-- What a safe name is made of. -/
theorem isSafeName.chars {name : String} (h : isSafeName name = true) :
    1 ≤ name.toList.length ∧ name.toList.length ≤ 128 ∧
      ∀ c ∈ name.toList, c.isAlphanum = true ∨ c = '_' ∨ c = '-' ∨ c = '.' ∨ c = ' ' := by
  simp only [isSafeName, Bool.and_eq_true, Bool.not_eq_true', List.isEmpty_eq_false_iff, decide_eq_true_eq,
    List.all_eq_true] at h
  obtain ⟨⟨hne, hlen⟩, hall⟩ := h
  refine ⟨List.length_pos_iff.2 hne, Nat.le_trans (Text.length_le_byteLength _) hlen, ?_⟩
  intro c hc
  have := hall c hc
  simp only [isNameChar, Bool.or_eq_true, beq_iff_eq] at this
  tauto

/-- An attribute that a rule tree refers to: that of a condition, or one that a relationship joins by. -/
def Criteria.RefersTo (d : Definitions) (c : Criteria) (a : Attribute) : Prop :=
  d.Serves c.references.attributeIds c.references.relationshipIds a

/-- **Names cannot break out of the text of a query**, whatever stands in the definitions and in the rules. Its single
quotes come in pairs. Between the two of a pair stands the name of an attribute that the rules refer to, which has 1 to
128 characters and no others than letters and digits of ASCII, `_`, `-`, `.` and blanks. What stands outside of the
pairs has no quote, semicolon or backslash and starts no comment. -/
theorem membershipQuery_confined {d : Definitions} {c : Criteria} {entity : Uuid} {q : Query}
    (h : membershipQuery d c entity = .ok q) :
    q.text.toList.count '\'' = 2 * (quotations q.text).length ∧
    (∀ name ∈ quotations q.text, (∃ a, c.RefersTo d a ∧ a.name = name) ∧
      1 ≤ name.toList.length ∧ name.toList.length ≤ 128 ∧
      ∀ x ∈ name.toList, x.isAlphanum = true ∨ x = '_' ∨ x = '-' ∨ x = '.' ∨ x = ' ') ∧
    (∀ x ∈ unquoted q.text, x ≠ '\'' ∧ x ≠ '"' ∧ x ≠ ';' ∧ x ≠ '\\') ∧
    ¬['-', '-'] <:+: unquoted q.text ∧ ¬['/', '*'] <:+: unquoted q.text := by
  obtain ⟨ps, b, hb, rfl⟩ := membershipQuery_ok h
  have hshields := shields_membershipText (isName_numbered 1) 1 (c := ⟨c.connective, ps⟩)
    (hb.allReadable (isName_numbered 1))
  obtain ⟨hinside, houtside⟩ := hshields.parts
  have hquoted : quotations (membershipText (.numbered 1) 1 ⟨c.connective, ps⟩) = Predicate.allNames ps := hinside
  have hharmless : ∀ x ∈ unquoted (membershipText (.numbered 1) 1 ⟨c.connective, ps⟩),
      isHarmless x = true ∨ x = '-' := houtside.harmless
  rw [hquoted]
  refine ⟨hshields.count_quotes, ?_, ?_, houtside.no_dashes, ?_⟩
  · intro name hname
    obtain ⟨a, ha, rfl, hsafe⟩ := hb.names name hname
    refine ⟨⟨a, ha.mono ?_ ?_, rfl⟩, isSafeName.chars hsafe⟩
    · exact fun id hid => Criteria.mem_attributeIds_references.2 hid
    · exact fun id hid => Criteria.mem_relationshipIds_references.2 hid
  · intro x hx
    refine ⟨?_, ?_, ?_, ?_⟩ <;>
    · rintro rfl
      exact absurd (hharmless _ hx) (by decide)
  · intro hcomment
    have hslash : '/' ∈ unquoted (membershipText (.numbered 1) 1 ⟨c.connective, ps⟩) :=
      hcomment.subset List.mem_cons_self
    exact absurd (hharmless _ hslash) (by decide)

/-- Customers with a hostile text in their name: their query quotes the name of its column, and not the text. -/
theorem membershipQuery_confined_shop :
    let c : Criteria := ⟨none, .and, [.condition ⟨Shop.id 3, "name", none, "contains", .string "' OR TRUE; --", none⟩]⟩
    ∃ q, membershipQuery Shop.definitions c (Shop.id 1) = .ok q ∧ quotations q.text = ["name"] ∧
      q.text.toList.count '\'' = 2 ∧ ¬['-', '-'] <:+: unquoted q.text := by
  intro c
  obtain ⟨q, h⟩ : ∃ q, membershipQuery Shop.definitions c (Shop.id 1) = .ok q := exists_of_isOk (by decide +kernel)
  have hnames : (membershipQuery Shop.definitions c (Shop.id 1)).toOption.map (fun q => quotations q.text) =
      some ["name"] := by decide +kernel
  rw [h] at hnames
  have hquoted : quotations q.text = ["name"] := Option.some.inj hnames
  obtain ⟨hcount, _, _, hdashes, _⟩ := membershipQuery_confined h
  rw [hquoted] at hcount
  exact ⟨q, h, hquoted, hcount, hdashes⟩

end Cohort
