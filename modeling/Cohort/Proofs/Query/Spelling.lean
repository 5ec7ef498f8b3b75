import Cohort.Proofs.Query.Derivation
import Cohort.Proofs.Query.Resolution
import Cohort.Proofs.Sql.Syntax

/-!
# The words of predicates

`Predicate.tokens` lists the words of a predicate without going through its text. A predicate is `Readable` if its
aliases are names, its attributes hold no quote and its parts have the form that building gives them; then its text is
cut into exactly these words (`Predicate.lexes_text`), and so is the text of a whole query
(`tokens_membershipText`).
-/

namespace Cohort

open Sql

/-! ## Columns and operators -/

/-- The type that the text of an attribute is cast to in a query. -/
def AttributeKind.castType : AttributeKind → Option CastType
  | integer => some .bigint
  | numeric => some .numeric
  | boolean => some .boolean
  | datetime => some .timestamptz
  | text => none

theorem AttributeKind.cast_eq (kind : AttributeKind) : kind.cast = kind.castType.map fun t => "::" ++ t.name := by
  cases kind <;> rfl

/-- The type that a column is cast to. -/
def Column.castType (c : Column) : Option CastType :=
  c.cast.bind fun s =>
    [("::bigint", .bigint), ("::numeric", .numeric), ("::boolean", .boolean), ("::timestamptz", .timestamptz)].lookup s

/-- The words of a cast. -/
def castTokens : Option CastType → List Token
  | none => []
  | some t => [.cast, .word t.name]

/-- The words of a column. -/
def Column.tokens (c : Column) : List Token :=
  [.openParen, .word c.row.text, .dot, .word "attributes", .arrow, .quoted c.name, .closeParen] ++
    castTokens c.castType

/-- A column whose text can be read back. -/
structure Column.Readable (c : Column) : Prop where
  /-- The row goes by a name. -/
  row : isName c.row.text = true
  /-- The attribute holds no quote. -/
  name : ∀ x ∈ c.name.toList, x ≠ '\''
  /-- The cast is that of a kind. -/
  cast : ∃ kind : AttributeKind, c.cast = kind.cast

theorem Column.castType_of_cast {c : Column} {kind : AttributeKind} (h : c.cast = kind.cast) :
    c.castType = kind.castType := by
  rw [Column.castType, h]
  cases kind <;> decide

theorem isName_castType (t : CastType) : isName t.name = true := by
  cases t <;> decide

theorem Column.lexes_text {c : Column} (h : c.Readable) : Lexes c.text.toList c.tokens := by
  obtain ⟨kind, hcast⟩ := h.cast
  intro rest hrest
  have hmember := fun rest => @lex_member _ _ _ rest h.row (by decide : isName "attributes" = true) h.name
  have htext : c.text.toList ++ rest = '(' :: (c.row.text.toList ++ '.' :: ("attributes".toList ++
      '-' :: '>' :: '>' :: '\'' :: (c.name.toList ++ '\'' :: ')' :: ((c.cast.getD "").toList ++ rest)))) := by
    simp [Column.text]
  rw [htext, hmember, Column.tokens, Column.castType_of_cast hcast, hcast, AttributeKind.cast_eq,
    String.ofList_toList]
  cases kind.castType with
  | none => rfl
  | some t =>
    have hsuffix : ((some t).map (fun t => "::" ++ t.name)).getD "" = "::" ++ t.name := rfl
    rw [hsuffix, String.toList_append, List.append_assoc]
    show (lex (':' :: ':' :: (t.name.toList ++ rest))).map _ = _
    rw [lex_cast, lex_name (isName_castType t) (hrest.ends (by decide))]
    simp [Option.map_map, Function.comp_def, castTokens]

/-- The words of an operator. -/
def Operator.tokens : Operator → List Token
  | equal => [.relation .equal]
  | notEqual => [.relation .notEqual]
  | greater => [.relation .greater]
  | greaterOrEqual => [.relation .greaterOrEqual]
  | less => [.relation .less]
  | lessOrEqual => [.relation .lessOrEqual]
  | among => [.keyword .oneOf]
  | isNull => [.keyword .is, .keyword .null]
  | isNotNull => [.keyword .is, .keyword .not, .keyword .null]
  | contains => [.relation .like]
  | matchesPattern => [.relation .ilike]

theorem lexes_reserved {s : String} {t : Token} (hs : isWord s = true) (ht : Token.ofWord s = t) :
    Lexes s.toList [t] := ht ▸ lexes_word hs

theorem Operator.lexes_sql (op : Operator) : Lexes op.sql.toList op.tokens := by
  have his : Lexes "IS".toList [.keyword .is] := lexes_reserved (by decide) (by decide)
  have hnot : Lexes "NOT".toList [.keyword .not] := lexes_reserved (by decide) (by decide)
  have hnull : Lexes "NULL".toList [.keyword .null] := lexes_reserved (by decide) (by decide)
  cases op with
  | equal | notEqual | greater | greaterOrEqual | less | lessOrEqual => exact lexes_sign (by simp [signs, Operator.sql])
  | among | contains | matchesPattern => exact lexes_reserved (by decide) (by decide)
  | isNull => exact his.blank hnull
  | isNotNull => exact his.blank (hnot.blank hnull)

theorem lexes_placeholder (n : Nat) : Lexes (placeholder n).toList [.parameter n] := by
  have h : (placeholder n).toList = '$' :: Numeral.digits n := by simp [placeholder, Numeral.natText]
  rw [h]
  exact lexes_parameter n

/-- The words of the condition that a row is of the entity in a parameter. -/
def entityTokens (row : Alias) (entity : Nat) : List Token :=
  [.word row.text, .dot, .word "entity_definition_id", .relation .equal, .parameter entity]

theorem lexes_entityTest {row : Alias} (hrow : isName row.text = true) (entity : Nat) :
    Lexes (entityTest row entity).toList (entityTokens row entity) := by
  have hfield := lexes_field hrow (by decide : isName "entity_definition_id" = true)
  have hsign : Lexes "=".toList [.relation .equal] := lexes_sign (by simp [signs])
  have htext : (entityTest row entity).toList =
      (row.text.toList ++ '.' :: "entity_definition_id".toList) ++ ' ' :: ("=".toList ++ ' ' ::
        (placeholder entity).toList) := by
    simp [entityTest]
  rw [htext]
  exact hfield.blank (hsign.blank (lexes_placeholder entity))

/-! ## Lists -/

theorem lexes_connectives {α : Type} (k : Connective) {f : α → List Char} {g : α → List Token} : ∀ (xs : List α),
    xs ≠ [] → (∀ x ∈ xs, Lexes (f x) (g x)) →
    Lexes ((" " ++ k.text ++ " ").toList.intercalate (xs.map f)) ([connector k].intercalate (xs.map g))
  | [x], _, h => by
    simpa using h x List.mem_cons_self
  | x :: y :: xs, _, h => by
    have hk : Lexes k.text.toList [connector k] := by
      cases k <;> exact lexes_reserved (by decide) (by decide)
    have ih := lexes_connectives k (y :: xs) (by simp) fun z hz =>
      h z (List.mem_cons_of_mem _ hz)
    have := ((h x List.mem_cons_self).blank hk).blank ih
    simp only [List.map_cons, List.intercalate_cons_cons] at this ⊢
    simpa using this

/-- The words of a list of parameters. -/
def parameterTokens (ns : List Nat) : List Token := [Token.comma].intercalate (ns.map fun n => [.parameter n])

theorem lexes_parameters : ∀ (ns : List Nat), ns ≠ [] →
    Lexes (", ".intercalate (ns.map placeholder)).toList (parameterTokens ns)
  | [n], _ => by
    simpa [parameterTokens] using lexes_placeholder n
  | n :: m :: ns, _ => by
    have ih := lexes_parameters (m :: ns) (by simp)
    have := (lexes_placeholder n).comma ih
    simpa [parameterTokens, String.toList_intercalate, List.intercalate_cons_cons] using this

/-! ## Predicates -/

/-- The words of the rows of the table that satisfy a condition, which is given by the words of its parts. -/
def rowsTokens (row : Alias) (parts : List (List Token)) : List Token :=
  [.keyword .fromRows, .word rowTable, .word row.text, .keyword .whereHolds] ++ [connector .and].intercalate parts

/-- The words of some parts in parentheses, if there are any. -/
def groupTokens (connective : Connective) : List (List Token) → List (List Token)
  | [] => []
  | parts => [.openParen :: ([connector connective].intercalate parts ++ [.closeParen])]

mutual

/-- The words of a predicate. -/
def Predicate.tokens : Predicate → List Token
  | .never => [.keyword .falsity]
  | .nullCheck column operator => column.tokens ++ operator.tokens
  | .comparison column operator parameter => column.tokens ++ (operator.tokens ++ [.parameter parameter])
  | .membership column parameters =>
    column.tokens ++ (Operator.among.tokens ++ .openParen :: (parameterTokens parameters ++ [.closeParen]))
  | .joined connective parts =>
    .openParen :: ([connector connective].intercalate (Predicate.tokensOfAll parts) ++ [.closeParen])
  | .related row entity outer inner connective parts =>
    .keyword .existsRow :: .openParen :: (.keyword .select :: .number 1 ::
      rowsTokens row ([entityTokens row entity, outer.tokens ++ .relation .equal :: inner.tokens] ++
        groupTokens connective (Predicate.tokensOfAll parts)) ++ [.closeParen])

/-- The words of several predicates. -/
def Predicate.tokensOfAll : List Predicate → List (List Token)
  | [] => []
  | p :: ps => p.tokens :: Predicate.tokensOfAll ps

end

/-- The relation between a value and a parameter that an operator states. -/
def Operator.relation? : Operator → Option Relation
  | equal => some .equal
  | notEqual => some .notEqual
  | greater => some .greater
  | greaterOrEqual => some .greaterOrEqual
  | less => some .less
  | lessOrEqual => some .lessOrEqual
  | contains => some .like
  | matchesPattern => some .ilike
  | among | isNull | isNotNull => none

mutual

/-- A predicate whose text can be read back. -/
def Predicate.Readable : Predicate → Prop
  | .never => True
  | .nullCheck column operator => column.Readable ∧ operator.isNullCheck = true
  | .comparison column operator _ => column.Readable ∧ operator.relation?.isSome = true
  | .membership column parameters => column.Readable ∧ parameters ≠ []
  | .joined _ parts => 2 ≤ parts.length ∧ Predicate.AllReadable parts
  | .related row _ outer inner _ parts =>
    isName row.text = true ∧ (outer.Readable ∧ outer.cast = none) ∧ (inner.Readable ∧ inner.cast = none) ∧
      Predicate.AllReadable parts

/-- Predicates whose texts can be read back. -/
def Predicate.AllReadable : List Predicate → Prop
  | [] => True
  | p :: ps => p.Readable ∧ Predicate.AllReadable ps

end

section Spellings

variable (column : Column) (operator : Operator) (k : Connective) (ps : List Predicate)

theorem Predicate.text_never : Predicate.never.text = "FALSE" := rfl

theorem Predicate.text_nullCheck :
    (Predicate.nullCheck column operator).text = column.text ++ " " ++ operator.sql := rfl

theorem Predicate.text_comparison (n : Nat) : (Predicate.comparison column operator n).text =
    column.text ++ " " ++ operator.sql ++ " " ++ placeholder n := rfl

theorem Predicate.text_membership (ns : List Nat) : (Predicate.membership column ns).text =
    column.text ++ " " ++ Operator.among.sql ++ " (" ++ ", ".intercalate (ns.map placeholder) ++ ")" := rfl

theorem Predicate.text_joined : (Predicate.joined k ps).text = "(" ++ joinTexts k (Predicate.texts ps) ++ ")" := rfl

theorem Predicate.text_related (row : Alias) (entity : Nat) (outer inner : Column) :
    (Predicate.related row entity outer inner k ps).text =
      "EXISTS (SELECT 1 FROM " ++ rowTable ++ " " ++ row.text ++ " WHERE " ++ entityTest row entity ++ " AND " ++
        outer.text ++ " = " ++ inner.text ++
        (if ps.isEmpty then "" else " AND (" ++ joinTexts k (Predicate.texts ps) ++ ")") ++ ")" := rfl

end Spellings

theorem Predicate.texts_eq_map : ∀ ps : List Predicate, Predicate.texts ps = ps.map Predicate.text
  | [] => rfl
  | p :: ps => by
    rw [Predicate.texts, Predicate.texts_eq_map ps, List.map_cons]

theorem Predicate.tokensOfAll_eq_map : ∀ ps : List Predicate, Predicate.tokensOfAll ps = ps.map Predicate.tokens
  | [] => rfl
  | p :: ps => by
    rw [Predicate.tokensOfAll, Predicate.tokensOfAll_eq_map ps, List.map_cons]

theorem Predicate.allReadable_iff : ∀ {ps : List Predicate}, Predicate.AllReadable ps ↔ ∀ p ∈ ps, p.Readable
  | [] => by simp [Predicate.AllReadable]
  | p :: ps => by
    rw [Predicate.AllReadable, Predicate.allReadable_iff, List.forall_mem_cons]

theorem toList_joinTexts (k : Connective) (ps : List Predicate) :
    (joinTexts k (Predicate.texts ps)).toList =
      (" " ++ k.text ++ " ").toList.intercalate (ps.map fun p => p.text.toList) := by
  rw [joinTexts, Predicate.texts_eq_map, String.toList_intercalate, List.map_map]
  rfl

/-- The rows of the table that satisfy some conditions, each given by its text and its words. -/
theorem lexes_rows {row : Alias} (hrow : isName row.text = true) (parts : List (List Char × List Token))
    (hparts : ∀ p ∈ parts, Lexes p.1 p.2) (hne : parts ≠ []) :
    Lexes ("FROM".toList ++ ' ' :: (rowTable.toList ++ ' ' :: (row.text.toList ++ ' ' :: ("WHERE".toList ++ ' ' ::
      (" AND ".toList.intercalate (parts.map Prod.fst)))))) (rowsTokens row (parts.map Prod.snd)) := by
  have hfrom : Lexes "FROM".toList [.keyword .fromRows] := lexes_reserved (by decide) (by decide)
  have hwhere : Lexes "WHERE".toList [.keyword .whereHolds] := lexes_reserved (by decide) (by decide)
  have hcondition := lexes_connectives .and _ hne hparts
  exact hfrom.blank ((lexes_name (by decide : isName rowTable = true)).blank ((lexes_name hrow).blank
    (hwhere.blank hcondition)))

/-- Readable predicates with a connective between them. -/
theorem lexes_joinTexts (k : Connective) {ps : List Predicate} (hne : ps ≠ [])
    (h : ∀ p ∈ ps, Lexes p.text.toList p.tokens) : Lexes (joinTexts k (Predicate.texts ps)).toList
      ([connector k].intercalate (Predicate.tokensOfAll ps)) := by
  rw [toList_joinTexts, Predicate.tokensOfAll_eq_map]
  exact lexes_connectives k ps hne h

/-- The predicates of a clause in parentheses, if there are any, each part with its text. -/
def groupPieces (k : Connective) (ps : List Predicate) : List (List Char × List Token) :=
  if ps.isEmpty then [] else [('(' :: ((joinTexts k (Predicate.texts ps)).toList ++ [')']),
    .openParen :: ([connector k].intercalate (Predicate.tokensOfAll ps) ++ [.closeParen]))]

theorem snd_groupPieces (k : Connective) (ps : List Predicate) :
    (groupPieces k ps).map Prod.snd = groupTokens k (Predicate.tokensOfAll ps) := by
  cases ps <;> rfl

theorem lexes_groupPieces {k : Connective} {ps : List Predicate} (h : ∀ p ∈ ps, Lexes p.text.toList p.tokens) :
    ∀ piece ∈ groupPieces k ps, Lexes piece.1 piece.2 := by
  intro piece hpiece
  cases ps with
  | nil => cases hpiece
  | cons p ps =>
    obtain rfl := List.mem_singleton.1 hpiece
    exact (lexes_joinTexts k (List.cons_ne_nil p ps) h).paren

/-- The existence of a related row is cut into its words if its parts are. -/
theorem lexes_related {row : Alias} (hrow : isName row.text = true) (entity : Nat) {outer inner : Column}
    (ho : outer.Readable) (hi : inner.Readable) (k : Connective) {ps : List Predicate}
    (hps : ∀ p ∈ ps, Lexes p.text.toList p.tokens) :
    Lexes (Predicate.related row entity outer inner k ps).text.toList
      (Predicate.related row entity outer inner k ps).tokens := by
  have hexists : Lexes "EXISTS".toList [.keyword .existsRow] := lexes_reserved (by decide) (by decide)
  have hselect : Lexes "SELECT".toList [.keyword .select] := lexes_reserved (by decide) (by decide)
  have hone : Lexes "1".toList [.number 1] := by
    have := lexes_number 1
    rwa [show Numeral.digits 1 = "1".toList by rw [Numeral.digits]; rfl] at this
  have hequal : Lexes "=".toList [.relation .equal] := lexes_sign (by simp [signs])
  have hkeys := (outer.lexes_text ho).blank (hequal.blank (inner.lexes_text hi))
  -- The inner query has the test of the entity, the equality of the keys, and the parts if there are any.
  have hrows := lexes_rows hrow ([((entityTest row entity).toList, entityTokens row entity),
    (_, outer.tokens ++ ([.relation .equal] ++ inner.tokens))] ++ groupPieces k ps)
    (by
      intro piece hpiece
      rcases List.mem_append.1 hpiece with hpiece | hpiece
      · rcases List.mem_cons.1 hpiece with rfl | hpiece
        · exact lexes_entityTest hrow entity
        · obtain rfl := List.mem_singleton.1 hpiece
          exact hkeys
      · exact lexes_groupPieces hps piece hpiece)
    (by simp)
  have := hexists.blank (hselect.blank (hone.blank hrows)).paren
  rw [List.map_append, List.map_append, snd_groupPieces] at this
  cases ps <;>
    simpa [Predicate.text_related, Predicate.tokens, groupPieces, List.intercalate_cons_cons] using this

mutual

/-- **A readable predicate is cut into its words.** -/
theorem Predicate.lexes_text : ∀ {p : Predicate}, p.Readable → Lexes p.text.toList p.tokens
  | .never, _ => by
    rw [Predicate.text_never, Predicate.tokens]
    exact lexes_reserved (by decide) (by decide)
  | .nullCheck column op, ⟨hc, _⟩ => by
    have := (column.lexes_text hc).blank op.lexes_sql
    simpa [Predicate.text_nullCheck, Predicate.tokens] using this
  | .comparison column op n, ⟨hc, _⟩ => by
    have := (column.lexes_text hc).blank (op.lexes_sql.blank (lexes_placeholder n))
    simpa [Predicate.text_comparison, Predicate.tokens] using this
  | .membership column ns, ⟨hc, hns⟩ => by
    have := (column.lexes_text hc).blank (Operator.among.lexes_sql.blank (lexes_parameters ns hns).paren)
    simpa [Predicate.text_membership, Predicate.tokens] using this
  | .joined k ps, ⟨hlen, hps⟩ => by
    have hne : ps ≠ [] := by
      rintro rfl
      exact absurd hlen (by decide)
    have := (lexes_joinTexts k hne (Predicate.lexes_texts hps)).paren
    simpa [Predicate.text_joined, Predicate.tokens] using this
  | .related row entity outer inner k ps, ⟨hrow, ⟨ho, _⟩, ⟨hi, _⟩, hps⟩ =>
    lexes_related hrow entity ho hi k (Predicate.lexes_texts hps)

/-- Readable predicates are cut into their words. -/
theorem Predicate.lexes_texts : ∀ {ps : List Predicate}, Predicate.AllReadable ps →
    ∀ p ∈ ps, Lexes p.text.toList p.tokens
  | p :: ps, ⟨hp, hps⟩, q, hq => by
    rcases List.mem_cons.1 hq with hq | hq
    · exact hq ▸ Predicate.lexes_text hp
    · exact Predicate.lexes_texts hps q hq

end

/-! ## Clauses and queries -/

/-- **The words of a clause.** -/
theorem Clause.tokens_text {c : Clause} (hne : c.parts ≠ []) (h : Predicate.AllReadable c.parts) :
    tokens c.text = some ([connector c.connective].intercalate (Predicate.tokensOfAll c.parts)) :=
  (lexes_joinTexts c.connective hne (Predicate.lexes_texts h)).eq

theorem membershipText_eq (row : Alias) (entity : Nat) (c : Clause) : membershipText row entity c =
    "SELECT id FROM " ++ rowTable ++ " " ++ row.text ++ " WHERE " ++ entityTest row entity ++
      if c.parts.isEmpty then "" else " AND (" ++ c.text ++ ")" := rfl

/-- The words of a query. -/
def membershipTokens (row : Alias) (entity : Nat) (c : Clause) : List Token :=
  .keyword .select :: .word "id" ::
    rowsTokens row (entityTokens row entity :: groupTokens c.connective (Predicate.tokensOfAll c.parts))

/-- **The words of a query.** -/
theorem tokens_membershipText {row : Alias} (hrow : isName row.text = true) (entity : Nat) {c : Clause}
    (h : Predicate.AllReadable c.parts) :
    tokens (membershipText row entity c) = some (membershipTokens row entity c) := by
  have hselect : Lexes "SELECT".toList [.keyword .select] := lexes_reserved (by decide) (by decide)
  have hid : Lexes "id".toList [.word "id"] := lexes_name (by decide)
  have hrows := lexes_rows hrow (((entityTest row entity).toList, entityTokens row entity) ::
      groupPieces c.connective c.parts)
    (by
      intro piece hpiece
      rcases List.mem_cons.1 hpiece with rfl | hpiece
      · exact lexes_entityTest hrow entity
      · exact lexes_groupPieces (Predicate.lexes_texts h) piece hpiece)
    (by simp)
  have := hselect.blank (hid.blank hrows)
  rw [List.map_cons, List.map_cons, snd_groupPieces] at this
  refine Lexes.eq ?_
  obtain ⟨k, ps⟩ := c
  cases ps <;>
    simpa [membershipText_eq, membershipTokens, Clause.text, groupPieces, List.intercalate_cons_cons] using this

/-! ## What building gives -/

theorem isName_numbered (n : Nat) : isName (Alias.numbered n).text = true := by
  have htext : (Alias.numbered n).text.toList = 'p' :: 'e' :: Numeral.digits n := by
    simp [Alias.text, Numeral.natText]
  have hdigit : ∀ c ∈ Numeral.digits n, isWordChar c = true := by
    intro c hc
    exact isWordChar_of_isDecimal (Numeral.isDecimal_of_mem_digits n hc)
  have hword : isWord (Alias.numbered n).text = true := by
    rw [isWord, htext]
    simp only [List.all_cons, Bool.and_eq_true, List.all_eq_true]
    exact ⟨by decide, by decide, hdigit⟩
  have hfree : reserved.lookup (Text.upper (Alias.numbered n).text) = none := by
    rw [List.lookup_eq_none_iff]
    intro e he
    have hhead : ∀ e ∈ reserved, e.1.toList.head? ≠ some 'P' := by decide
    have hupper : (Text.upper (Alias.numbered n).text).toList.head? = some 'P' := by
      rw [Text.upper, String.toList_ofList, htext]
      rfl
    rw [bne_iff_ne]
    intro heq
    exact hhead e he (heq ▸ hupper)
  rw [isName, hword, hfree]
  rfl

theorem Condition.readable_of_resolve {d : Definitions} {scope : Uuid} {c : Condition} {t : Test} {row : Alias}
    (hrow : isName row.text = true) (h : c.resolve d scope = .ok t) (n : Nat) : (t.predicate row n).Readable := by
  obtain ⟨_, _, hsafe, op, _, _, hk⟩ := Condition.resolve_ok h
  have hcolumn : (⟨row, t.subject.name, t.subject.kind.cast⟩ : Column).Readable :=
    ⟨hrow, isSafeName.no_quote hsafe, t.subject.kind, rfl⟩
  obtain ⟨a, k⟩ := t
  cases hk with
  | nullCheck hop => exact ⟨hcolumn, hop⟩
  | contains _ => exact ⟨hcolumn, rfl⟩
  | value hnull hamong hcontains _ =>
    refine ⟨hcolumn, ?_⟩
    cases op with
    | isNull | isNotNull => cases hnull
    | among => exact absurd rfl hamong
    | _ => rfl
  | @among _ items ps _ _ =>
    cases ps with
    | nil => trivial
    | cons p ps => exact ⟨hcolumn, by simp⟩

theorem allReadable_splice {k : Connective} {ps : List Predicate} (h : Predicate.AllReadable ps) :
    Predicate.AllReadable (Builder.splice k ps) := by
  match ps, h with
  | [], h => exact h
  | [p], h => exact h
  | p :: q :: ps, h => exact ⟨⟨by simp, h⟩, trivial⟩

/-- **What building gives can be read back.** -/
theorem Builder.Builds.allReadable {d : Definitions} {row : Alias} {scope : Uuid} {rs : List Rule} {b b' : Builder}
    {ps : List Predicate} (h : Builder.Builds d row scope rs b ps b') (hrow : isName row.text = true) :
    Predicate.AllReadable ps := by
  induction h with
  | nil => trivial
  | condition ht _ ih => exact ⟨Condition.readable_of_resolve hrow ht _, ih hrow⟩
  | nested _ _ ihc ih =>
    rw [Predicate.allReadable_iff]
    intro p hp
    rcases List.mem_append.1 hp with hp | hp
    · exact Predicate.allReadable_iff.1 (allReadable_splice (ihc hrow)) p hp
    · exact Predicate.allReadable_iff.1 (ih hrow) p hp
  | related hj _ _ ihc ih =>
    obtain ⟨r, t, here, there, _, _, _, _, hhere, _, _, hthere, rfl⟩ := Definitions.join_ok hj
    have houter : (⟨_, here.name, none⟩ : Column).Readable := ⟨hrow, isSafeName.no_quote hhere, .text, rfl⟩
    have hinner (n : Nat) : (⟨.numbered n, there.name, none⟩ : Column).Readable :=
      ⟨isName_numbered n, isSafeName.no_quote hthere, .text, rfl⟩
    exact ⟨⟨isName_numbered _, ⟨houter, rfl⟩, ⟨hinner _, rfl⟩, ihc (isName_numbered _)⟩, ih hrow⟩

end Cohort
