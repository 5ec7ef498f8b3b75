import Cohort.Proofs.Query.Selection
import Cohort.Proofs.Sql.Pattern

/-!
# Conditions on what a text contains

A condition that an attribute contains a text is a comparison with the text between percent signs, as a pattern. Which
texts it is true of is what the text finds between percent signs (`contains_finds`): those that contain it, as long as
it has no percent sign, underscore or backslash.
-/

namespace Cohort

open Sql

/-- An engine that compares texts with patterns by what the patterns stand for. -/
def Sql.Engine.ReadsPatterns (E : Engine) : Prop :=
  ∀ s pattern parts, Pattern.read pattern.toList = some parts →
    E.compareTexts .like s pattern = some (Pattern.accepts parts s.toList)

/-- Conditions on contained texts are conditions on attributes that are read as texts. -/
theorem AttributeKind.eq_text_of_contains {kind : AttributeKind} (h : kind.supports .contains = true) :
    kind = .text := by
  cases kind with
  | text => rfl
  | integer | numeric | boolean | datetime => cases h

theorem toList_pattern (needle : String) : ("%" ++ needle ++ "%").toList = Pattern.between needle.toList := by
  rw [String.toList_append, String.toList_append]
  rfl

/-- What a condition on a contained text compares its attribute with. -/
theorem Condition.resolve_contains {d : Definitions} {scope : Uuid} {c : Condition} {t : Test}
    (hop : Operator.parse? c.operator = some .contains) (h : c.resolve d scope = .ok t) :
    ∃ a needle, d.attribute? c.attributeId = some a ∧ a.kind = .text ∧ a.kind.coerce c.value = .ok (.text needle) ∧
      t = ⟨a, .value .contains (.text ("%" ++ needle ++ "%"))⟩ := by
  obtain ⟨ha, _, _, op, hparse, hsupports, hk⟩ := Condition.resolve_ok h
  obtain ⟨a, k⟩ := t
  cases hop.symm.trans hparse
  cases hk with
  | nullCheck hnull => cases hnull
  | value _ _ hcontains => exact absurd rfl hcontains
  | contains hp =>
    obtain ⟨needle, rfl⟩ := coerce_text hsupports hp
    exact ⟨a, needle, ha, AttributeKind.eq_text_of_contains hsupports, hp, rfl⟩

/-- The truth of a condition on a contained text, if the attribute has a text. -/
theorem Condition.truth_contains {E : Engine} {d : Definitions} {c : Condition} {a : Attribute} {needle text : String}
    {r : Row} (hop : Operator.parse? c.operator = some .contains) (ha : d.attribute? c.attributeId = some a)
    (hkind : a.kind = .text) (hneedle : a.kind.coerce c.value = .ok (.text needle))
    (htext : r.attributes a.name = some text) :
    c.truth E d r = E.compareTexts .like text ("%" ++ needle ++ "%") := by
  have hstored : a.stored E r = some (.text text) := by
    rw [Attribute.stored, htext, hkind]
    rfl
  rw [Condition.truth, ha, hop]
  show compareValues .like (a.stored E r) (a.kind.pattern? E c.value) = _
  rw [hstored, pattern?_of_coerce hneedle]
  rfl

/-- **The comparison for a condition on a contained text finds what the text finds between percent signs.** -/
theorem contains_finds {E : Engine} (hE : E.ReadsPatterns) {d : Definitions} {row : Alias} {scope : Uuid}
    {c : Condition} {b b' : Builder} {ps : List Predicate} (hop : Operator.parse? c.operator = some .contains)
    (h : (Builder.rule d row scope (.condition c)).run b = (.ok ps, b')) :
    ∃ a needle found, d.attribute? c.attributeId = some a ∧ a.kind = .text ∧
      a.kind.coerce c.value = .ok (.text needle) ∧
      ps = [.comparison ⟨row, a.name, none⟩ .contains (b.parameters.length + 1)] ∧
      Predicate.texts ps =
        [(⟨row, a.name, none⟩ : Column).text ++ " LIKE " ++ placeholder (b.parameters.length + 1)] ∧
      parameterAt b'.parameters (b.parameters.length + 1) = some (.text ("%" ++ needle ++ "%")) ∧
      (∀ table qs names r text, b'.parameters <+: qs → names.lookup row.text = some r →
        r.attributes a.name = some text →
        Sql.Condition.evalAll E table qs names (Predicate.conditions ps) = some [some (found text.toList)]) ∧
      Pattern.Finds needle.toList found := by
  obtain ⟨t, ht, rfl, rfl⟩ := Builder.rule_condition_ok h
  obtain ⟨a, needle, ha, hkind, hneedle, rfl⟩ := Condition.resolve_contains hop ht
  obtain ⟨parts, hparts⟩ := Pattern.exists_read_between needle.toList
  have hcolumn : (⟨row, a.name, a.kind.cast⟩ : Column) = ⟨row, a.name, none⟩ := by
    rw [hkind]
    rfl
  have hps : [Test.predicate row b.parameters.length ⟨a, .value .contains (.text ("%" ++ needle ++ "%"))⟩] =
      [.comparison ⟨row, a.name, none⟩ .contains (b.parameters.length + 1)] := by
    rw [← hcolumn]
    rfl
  refine ⟨a, needle, Pattern.accepts parts, ha, hkind, hneedle, hps, ?_, parameterAt_next List.prefix_rfl, ?_,
    Pattern.finds_of_read hparts⟩
  · rw [hps]
    show [(⟨row, a.name, none⟩ : Column).text ++ " " ++ "LIKE" ++ " " ++ _] = _
    simp only [String.append_assoc]
    rfl
  · intro table qs names r text hqs hrow htext
    have heval : Sql.Condition.eval E table qs names _ = some (c.truth E d r) := Test.eval_predicate ht hrow hqs
    rw [Condition.truth_contains hop ha hkind hneedle htext, hE text _ parts (by rw [toList_pattern, hparts])] at heval
    rw [Predicate.conditions, Sql.Condition.evalAll, heval]
    rfl

namespace Shop

/-- An engine for patterns. -/
def patterns : Engine where
  Value := Unit
  cast _ _ := ()
  value _ := ()
  compare _ _ _ := none
  compareTexts
    | .like, s, pattern => (Pattern.read pattern.toList).map (Pattern.accepts · s.toList)
    | _, _, _ => none

theorem patterns_readsPatterns : patterns.ReadsPatterns := by
  intro s pattern parts h
  show (Pattern.read pattern.toList).map _ = _
  rw [h]
  rfl

/-- The rule that the name of a customer contains a text. -/
def named (needle : String) : Rule := .condition ⟨id 3, "name", none, "contains", .string needle, none⟩

/-- A customer with a name. -/
def customerNamed (name : String) : Row := ⟨id 8, id 1, fun _ => some name⟩

end Shop

/-- The name `joanna` contains `ann`. -/
theorem contains_finds_shop : ∃ ps b,
    (Builder.rule Shop.definitions (.numbered 1) (Shop.id 1) (Shop.named "ann")).run ⟨[], 1⟩ = (.ok ps, b) ∧
      Sql.Condition.evalAll Shop.patterns [] b.parameters [((Alias.numbered 1).text, Shop.customerNamed "joanna")]
        (Predicate.conditions ps) = some [some true] := by
  obtain ⟨ps, b, h⟩ := Builder.exists_run_ok (x := Builder.rule Shop.definitions (.numbered 1) (Shop.id 1)
    (Shop.named "ann")) (b := ⟨[], 1⟩) (by decide +kernel)
  obtain ⟨a, needle, found, ha, hkind, hneedle, -, -, -, heval, hfinds⟩ :=
    contains_finds Shop.patterns_readsPatterns (by decide +kernel) h
  have hfound : found "joanna".toList = true := by
    rw [hkind] at hneedle
    cases hneedle
    have hplain : ∀ c ∈ "ann".toList, Pattern.isSpecial c = false := by simp [Pattern.isSpecial]
    exact (hfinds.contains.2 hplain _).2 (by decide +kernel)
  refine ⟨ps, b, h, ?_⟩
  rw [heval [] b.parameters _ _ "joanna" List.prefix_rfl (lookup_self [] 1 _) rfl, hfound]

/-- The condition that a name contains `50%` is true of a name that does not contain it. -/
theorem contains_mistaken_shop : Shop.patterns.ReadsPatterns ∧ ∃ ps b,
    (Builder.rule Shop.definitions (.numbered 1) (Shop.id 1) (Shop.named "50%")).run ⟨[], 1⟩ = (.ok ps, b) ∧
      Sql.Condition.evalAll Shop.patterns [] b.parameters [((Alias.numbered 1).text, Shop.customerNamed "50 euros")]
        (Predicate.conditions ps) = some [some true] ∧
      ¬"50%".toList <:+: "50 euros".toList :=
  ⟨Shop.patterns_readsPatterns, _, _, rfl, by decide +kernel, by decide +kernel⟩

end Cohort
