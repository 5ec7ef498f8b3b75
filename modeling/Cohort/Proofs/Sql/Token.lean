import Cohort.Proofs.Numeral
import Cohort.Text.Ascii

/-!
# The words of a query text

`tokens` cuts a query text into keywords, names, quoted texts, numbers, parameters and signs, each as long as possible.
A quoted text ends at the first single quote that is not doubled.

`Lexes cs ts` says that `cs` gives `ts` whatever follows, if that starts with a blank, a comma or a closing
parenthesis. A text made of such pieces is cut piece by piece (`Lexes.blank`, `Lexes.paren`, `Lexes.comma`).
-/

namespace Cohort.Sql

/-- The reserved words of queries. -/
inductive Keyword where
  | select
  | fromRows
  | whereHolds
  | and
  | or
  | existsRow
  | falsity
  | oneOf
  | is
  | not
  | null
  deriving DecidableEq

/-- A comparison of two values. -/
inductive Relation where
  | equal
  | notEqual
  | greater
  | greaterOrEqual
  | less
  | lessOrEqual
  | like
  | ilike
  deriving DecidableEq

/-- A word of a query text. -/
inductive Token where
  | keyword (word : Keyword)
  | relation (relation : Relation)
  | word (name : String)
  | quoted (content : String)
  | number (value : Nat)
  | parameter (number : Nat)
  | openParen
  | closeParen
  | comma
  | dot
  | cast
  | arrow
  deriving DecidableEq

/-! ## Cutting a text -/

/-- The words that are no names. -/
def reserved : List (String × Token) :=
  [("SELECT", .keyword .select), ("FROM", .keyword .fromRows), ("WHERE", .keyword .whereHolds),
    ("AND", .keyword .and), ("OR", .keyword .or), ("EXISTS", .keyword .existsRow), ("FALSE", .keyword .falsity),
    ("IN", .keyword .oneOf), ("IS", .keyword .is), ("NOT", .keyword .not), ("NULL", .keyword .null),
    ("LIKE", .relation .like), ("ILIKE", .relation .ilike)]

/-- The signs made of operator characters. -/
def signs : List (String × Token) :=
  [("=", .relation .equal), ("!=", .relation .notEqual), (">", .relation .greater),
    (">=", .relation .greaterOrEqual), ("<", .relation .less), ("<=", .relation .lessOrEqual), ("->>", .arrow)]

/-- The signs that stand alone. -/
def marks : List (Char × Token) := [('(', .openParen), (')', .closeParen), (',', .comma), ('.', .dot)]

/-- A character that a word can start with. -/
def isLetter (c : Char) : Bool := c.isAlpha || c == '_'

/-- A character inside a word. -/
def isWordChar (c : Char) : Bool := c.isAlphanum || c == '_'

/-- A character of an operator. -/
def isSignChar (c : Char) : Bool :=
  ['+', '-', '*', '/', '<', '>', '=', '~', '!', '@', '#', '%', '^', '&', '|', '?'].contains c

/-- The word that some letters make; case does not count in a reserved word. -/
def Token.ofWord (s : String) : Token := (reserved.lookup (Text.upper s)).getD (.word s)

/-- The content of a quoted text, from behind its opening quote, and what follows it. A doubled quote stands for one. -/
def quotation : List Char → Option (List Char × List Char)
  | [] => none
  | ['\''] => some ([], [])
  | '\'' :: '\'' :: cs => (quotation cs).map fun (s, rest) => ('\'' :: s, rest)
  | '\'' :: c :: cs => some ([], c :: cs)
  | c :: cs => (quotation cs).map fun (s, rest) => (c :: s, rest)

theorem length_quotation {cs s rest : List Char} (h : quotation cs = some (s, rest)) : rest.length < cs.length := by
  fun_induction quotation cs generalizing s rest with
  | case1 => cases h
  | case2 => cases h; exact Nat.zero_lt_one
  | case3 cs ih =>
    obtain ⟨⟨s', rest'⟩, h', he⟩ := Option.map_eq_some_iff.1 h
    cases he
    have := ih h'
    simp only [List.length_cons]
    omega
  | case4 c cs _ => cases h; exact Nat.lt_succ_self _
  | case5 c cs _ _ _ ih =>
    obtain ⟨⟨s', rest'⟩, h', he⟩ := Option.map_eq_some_iff.1 h
    cases he
    exact Nat.lt_succ_of_lt (ih h')

theorem length_dropWhile_le (p : Char → Bool) (cs : List Char) : (cs.dropWhile p).length ≤ cs.length :=
  (List.dropWhile_suffix p).length_le

/-- The words of a text. -/
def lex (text : List Char) : Option (List Token) :=
  match text with
  | [] => some []
  | c :: cs =>
    if c = ' ' then lex cs
    else if isLetter c then
      (lex (cs.dropWhile isWordChar)).map (Token.ofWord (String.ofList (c :: cs.takeWhile isWordChar)) :: ·)
    else if Numeral.isDecimal c then
      (Numeral.natural? (c :: cs.takeWhile Numeral.isDecimal)).bind fun n =>
        (lex (cs.dropWhile Numeral.isDecimal)).map (.number n :: ·)
    else if c = '$' then
      (Numeral.natural? (cs.takeWhile Numeral.isDecimal)).bind fun n =>
        (lex (cs.dropWhile Numeral.isDecimal)).map (.parameter n :: ·)
    else if c = '\'' then
      match h : quotation cs with
      | some (s, rest) =>
        have := length_quotation h
        (lex rest).map (.quoted (String.ofList s) :: ·)
      | none => none
    else if isSignChar c then
      (signs.lookup (String.ofList (c :: cs.takeWhile isSignChar))).bind fun t =>
        (lex (cs.dropWhile isSignChar)).map (t :: ·)
    else if c = ':' then
      if cs.head? = some ':' then (lex cs.tail).map (.cast :: ·) else none
    else (marks.lookup c).bind fun t => (lex cs).map (t :: ·)
termination_by text.length
decreasing_by
  all_goals simp only [List.length_cons]
  all_goals first
    | omega
    | exact Nat.lt_succ_of_le (length_dropWhile_le _ _)
    | exact Nat.lt_succ_of_le (by rw [List.length_tail]; omega)

/-- The words of a query text. -/
def tokens (text : String) : Option (List Token) := lex text.toList

/-- A text that is one word. -/
def isWord (s : String) : Bool :=
  match s.toList with
  | [] => false
  | c :: cs => isLetter c && cs.all isWordChar

/-- A word that is not reserved. -/
def isName (s : String) : Bool := isWord s && (reserved.lookup (Text.upper s)).isNone

/-! ## One piece after the other -/

/-- What follows a run of characters does not belong to it. -/
def Ends (p : Char → Bool) (rest : List Char) : Prop := ∀ c ∈ rest.head?, p c = false

theorem ends_cons {p : Char → Bool} {c : Char} {cs : List Char} (h : p c = false) : Ends p (c :: cs) := by
  intro x hx
  cases hx
  exact h

theorem takeWhile_append_of_ends {p : Char → Bool} {run rest : List Char} (hrun : ∀ c ∈ run, p c = true)
    (hrest : Ends p rest) : (run ++ rest).takeWhile p = run := by
  rw [List.takeWhile_append_of_pos hrun]
  cases rest with
  | nil => simp
  | cons c cs => rw [List.takeWhile_cons_of_neg (by simpa using hrest c rfl), List.append_nil]

theorem dropWhile_append_of_ends {p : Char → Bool} {run rest : List Char} (hrun : ∀ c ∈ run, p c = true)
    (hrest : Ends p rest) : (run ++ rest).dropWhile p = rest := by
  rw [List.dropWhile_append_of_pos hrun]
  cases rest with
  | nil => rfl
  | cons c cs => exact List.dropWhile_cons_of_neg (by simpa using hrest c rfl)

theorem exists_digit_of_isDecimal {c : Char} (h : Numeral.isDecimal c = true) :
    ∃ i : Fin 10, c = Char.ofNat (48 + i.val) := by
  have hc : 48 ≤ c.toNat ∧ c.toNat ≤ 57 := by
    unfold Numeral.isDecimal Numeral.decimalValue? at h
    split at h
    · rename_i hc
      exact ⟨hc.1, hc.2⟩
    · cases h
  refine ⟨⟨c.toNat - 48, by omega⟩, ?_⟩
  rw [show 48 + (c.toNat - 48) = c.toNat by omega, Char.ofNat_toNat]

theorem isLetter_of_isDecimal {c : Char} (h : Numeral.isDecimal c = true) : isLetter c = false := by
  obtain ⟨i, rfl⟩ := exists_digit_of_isDecimal h
  revert i
  decide

theorem isWordChar_of_isDecimal {c : Char} (h : Numeral.isDecimal c = true) : isWordChar c = true := by
  obtain ⟨i, rfl⟩ := exists_digit_of_isDecimal h
  revert i
  decide

/-- A character of an operator starts nothing else. -/
theorem other_of_isSignChar {c : Char} (h : isSignChar c = true) :
    c ≠ ' ' ∧ ¬isLetter c = true ∧ ¬Numeral.isDecimal c = true ∧ c ≠ '$' ∧ c ≠ '\'' := by
  have key : ['+', '-', '*', '/', '<', '>', '=', '~', '!', '@', '#', '%', '^', '&', '|', '?'].all (fun x =>
      x ≠ ' ' ∧ ¬isLetter x = true ∧ ¬Numeral.isDecimal x = true ∧ x ≠ '$' ∧ x ≠ '\'') = true := by decide
  exact of_decide_eq_true (List.all_eq_true.1 key c (List.contains_iff_mem.1 h))

theorem lex_blank (cs : List Char) : lex (' ' :: cs) = lex cs := by
  rw [lex, if_pos rfl]

theorem lex_word {c : Char} {cs rest : List Char} (hc : isLetter c = true) (hcs : ∀ x ∈ cs, isWordChar x = true)
    (hrest : Ends isWordChar rest) :
    lex (c :: (cs ++ rest)) = (lex rest).map (Token.ofWord (String.ofList (c :: cs)) :: ·) := by
  have hblank : c ≠ ' ' := by
    rintro rfl
    exact absurd hc (by decide)
  rw [lex, if_neg hblank, if_pos hc, takeWhile_append_of_ends hcs hrest, dropWhile_append_of_ends hcs hrest]

theorem lex_number (n : Nat) {rest : List Char} (hrest : Ends Numeral.isDecimal rest) :
    lex (Numeral.digits n ++ rest) = (lex rest).map (.number n :: ·) := by
  have hdigits : ∀ x ∈ Numeral.digits n, Numeral.isDecimal x = true := fun x hx =>
    Numeral.isDecimal_of_mem_digits n hx
  have hread := Numeral.natural?_digits n
  cases hn : Numeral.digits n with
  | nil => exact absurd hn (Numeral.digits_ne_nil n)
  | cons c cs =>
    rw [hn] at hdigits hread
    have hc := hdigits c List.mem_cons_self
    have hcs : ∀ x ∈ cs, Numeral.isDecimal x = true := fun x hx => hdigits x (List.mem_cons_of_mem _ hx)
    have hblank : c ≠ ' ' := by
      rintro rfl
      exact absurd hc (by decide)
    have hletter : isLetter c = false := isLetter_of_isDecimal hc
    rw [List.cons_append, lex, if_neg hblank, if_neg (by simp [hletter]), if_pos hc,
      takeWhile_append_of_ends hcs hrest, dropWhile_append_of_ends hcs hrest, hread, Option.bind_some]

theorem lex_parameter (n : Nat) {rest : List Char} (hrest : Ends Numeral.isDecimal rest) :
    lex ('$' :: (Numeral.digits n ++ rest)) = (lex rest).map (.parameter n :: ·) := by
  have hdigits : ∀ x ∈ Numeral.digits n, Numeral.isDecimal x = true := fun x hx =>
    Numeral.isDecimal_of_mem_digits n hx
  rw [lex, if_neg (by decide), if_neg (by decide), if_neg (by decide), if_pos rfl,
    takeWhile_append_of_ends hdigits hrest, dropWhile_append_of_ends hdigits hrest, Numeral.natural?_digits,
    Option.bind_some]

/-- A quoted text without a quote inside ends at the next quote. -/
theorem quotation_append {rest : List Char} (hrest : Ends (· == '\'') rest) : ∀ {cs : List Char},
    (∀ c ∈ cs, c ≠ '\'') → quotation (cs ++ '\'' :: rest) = some (cs, rest)
  | [], _ => by
    cases rest with
    | nil => rfl
    | cons c cs =>
      have hc : c ≠ '\'' := by simpa using hrest c rfl
      rw [List.nil_append, quotation]
      simpa using hc
  | c :: cs, h => by
    have hc := h c List.mem_cons_self
    have ih := quotation_append hrest fun x hx => h x (List.mem_cons_of_mem _ hx)
    rw [List.cons_append, quotation.eq_def]
    simp [hc, ih]

theorem lex_quoted {cs rest : List Char} (hcs : ∀ c ∈ cs, c ≠ '\'') (hrest : Ends (· == '\'') rest) :
    lex ('\'' :: (cs ++ '\'' :: rest)) = (lex rest).map (.quoted (String.ofList cs) :: ·) := by
  rw [lex, if_neg (by decide), if_neg (by decide), if_neg (by decide), if_neg (by decide), if_pos rfl]
  split
  · rename_i s rest' h
    rw [quotation_append hrest hcs] at h
    cases h
    rfl
  · rename_i h
    rw [quotation_append hrest hcs] at h
    cases h

theorem lex_sign {c : Char} {cs rest : List Char} {t : Token} (hc : isSignChar c = true)
    (hcs : ∀ x ∈ cs, isSignChar x = true) (hrest : Ends isSignChar rest)
    (ht : signs.lookup (String.ofList (c :: cs)) = some t) : lex (c :: (cs ++ rest)) = (lex rest).map (t :: ·) := by
  obtain ⟨hblank, hletter, hdigit, hdollar, hquote⟩ := other_of_isSignChar hc
  rw [lex, if_neg hblank, if_neg hletter, if_neg hdigit, if_neg hdollar, if_neg hquote, if_pos hc,
    takeWhile_append_of_ends hcs hrest, dropWhile_append_of_ends hcs hrest, ht, Option.bind_some]

theorem lex_cast (cs : List Char) : lex (':' :: ':' :: cs) = (lex cs).map (.cast :: ·) := by
  rw [lex, if_neg (by decide), if_neg (by decide), if_neg (by decide), if_neg (by decide), if_neg (by decide),
    if_neg (by decide), if_pos rfl, List.head?_cons, if_pos rfl, List.tail_cons]

theorem lex_mark {c : Char} {t : Token} (hc : (c, t) ∈ marks) (cs : List Char) :
    lex (c :: cs) = (lex cs).map (t :: ·) := by
  simp only [marks, List.mem_cons, Prod.mk.injEq, List.not_mem_nil, or_false] at hc
  rcases hc with ⟨rfl, rfl⟩ | ⟨rfl, rfl⟩ | ⟨rfl, rfl⟩ | ⟨rfl, rfl⟩ <;> (rw [lex]; rfl)

theorem lex_text {s : String} {rest : List Char} (hs : isWord s = true) (hrest : Ends isWordChar rest) :
    lex (s.toList ++ rest) = (lex rest).map (Token.ofWord s :: ·) := by
  unfold isWord at hs
  cases h : s.toList with
  | nil =>
    rw [h] at hs
    cases hs
  | cons c cs =>
    rw [h] at hs
    simp only [Bool.and_eq_true, List.all_eq_true] at hs
    rw [List.cons_append, lex_word hs.1 hs.2 hrest, ← h, String.ofList_toList]

theorem ofWord_of_isName {s : String} (h : isName s = true) : isWord s = true ∧ Token.ofWord s = .word s := by
  simp only [isName, Bool.and_eq_true, Option.isNone_iff_eq_none] at h
  exact ⟨h.1, by rw [Token.ofWord, h.2, Option.getD_none]⟩

theorem lex_name {s : String} {rest : List Char} (hs : isName s = true) (hrest : Ends isWordChar rest) :
    lex (s.toList ++ rest) = (lex rest).map (.word s :: ·) := by
  obtain ⟨hw, ht⟩ := ofWord_of_isName hs
  rw [lex_text hw hrest, ht]

/-! ## Pieces -/

/-- What may follow a piece of a text. -/
def Stops (rest : List Char) : Prop := ∀ c ∈ rest.head?, c = ' ' ∨ c = ',' ∨ c = ')'

theorem stops_nil : Stops [] := by
  intro c hc
  cases hc

theorem stops_cons {c : Char} {cs : List Char} (h : c = ' ' ∨ c = ',' ∨ c = ')') : Stops (c :: cs) := by
  intro x hx
  cases hx
  exact h

theorem Stops.ends {p : Char → Bool} {rest : List Char} (h : Stops rest)
    (hp : [' ', ',', ')'].all (fun c => !p c) = true) : Ends p rest := by
  simp only [List.all_cons, List.all_nil, Bool.and_true, Bool.and_eq_true, Bool.not_eq_true'] at hp
  intro c hc
  rcases h c hc with rfl | rfl | rfl
  · exact hp.1
  · exact hp.2.1
  · exact hp.2.2

/-- Some characters give some words, whatever follows them. -/
def Lexes (cs : List Char) (ts : List Token) : Prop :=
  ∀ rest, Stops rest → lex (cs ++ rest) = (lex rest).map (ts ++ ·)

variable {cs ds : List Char} {ts us : List Token}

theorem Lexes.eq (h : Lexes cs ts) : lex cs = some ts := by
  have := h [] stops_nil
  rw [List.append_nil, lex] at this
  simpa using this

/-- Two pieces with a blank between them. -/
theorem Lexes.blank (h : Lexes cs ts) (h' : Lexes ds us) : Lexes (cs ++ ' ' :: ds) (ts ++ us) := by
  intro rest hrest
  rw [List.append_assoc, List.cons_append, h _ (stops_cons (.inl rfl)), lex_blank, h' rest hrest, Option.map_map]
  simp [Function.comp_def]

/-- Two pieces with a comma between them. -/
theorem Lexes.comma (h : Lexes cs ts) (h' : Lexes ds us) : Lexes (cs ++ ',' :: ' ' :: ds) (ts ++ .comma :: us) := by
  intro rest hrest
  rw [List.append_assoc, List.cons_append, List.cons_append, h _ (stops_cons (.inr (.inl rfl))),
    lex_mark (t := .comma) (by simp [marks]), lex_blank, h' rest hrest]
  simp [Option.map_map, Function.comp_def]

/-- A piece in parentheses. -/
theorem Lexes.paren (h : Lexes cs ts) : Lexes ('(' :: (cs ++ [')'])) (.openParen :: (ts ++ [.closeParen])) := by
  intro rest hrest
  rw [List.cons_append, List.append_assoc, List.cons_append, List.nil_append,
    lex_mark (t := .openParen) (by simp [marks]), h _ (stops_cons (.inr (.inr rfl))),
    lex_mark (t := .closeParen) (by simp [marks])]
  simp [Option.map_map, Function.comp_def]

theorem lexes_word {s : String} (hs : isWord s = true) : Lexes s.toList [Token.ofWord s] := fun _ hrest =>
  lex_text hs (hrest.ends (by decide))

theorem lexes_name {s : String} (hs : isName s = true) : Lexes s.toList [.word s] := fun _ hrest =>
  lex_name hs (hrest.ends (by decide))

theorem lexes_number (n : Nat) : Lexes (Numeral.digits n) [.number n] := fun _ hrest =>
  lex_number n (hrest.ends (by decide))

theorem lexes_parameter (n : Nat) : Lexes ('$' :: Numeral.digits n) [.parameter n] := fun _ hrest =>
  lex_parameter n (hrest.ends (by decide))

theorem lexes_sign {s : String} {t : Token} (hs : (s, t) ∈ signs) : Lexes s.toList [t] := by
  have hshape : ∀ e ∈ signs, ∃ c cs, e.1.toList = c :: cs ∧ isSignChar c = true ∧ cs.all isSignChar = true ∧
      signs.lookup e.1 = some e.2 := by
    simp only [signs, List.forall_mem_cons]
    refine ⟨⟨_, _, rfl, ?_⟩, ⟨_, _, rfl, ?_⟩, ⟨_, _, rfl, ?_⟩, ⟨_, _, rfl, ?_⟩, ⟨_, _, rfl, ?_⟩, ⟨_, _, rfl, ?_⟩,
      ⟨_, _, rfl, ?_⟩, by simp⟩ <;> decide
  obtain ⟨c, cs, h, hc, hcs, ht⟩ := hshape _ hs
  simp only at h ht
  intro rest hrest
  rw [← String.ofList_toList (s := s), h] at ht
  rw [h, List.cons_append, lex_sign hc (List.all_eq_true.1 hcs) (hrest.ends (by decide)) ht]
  rfl

/-- A field of a row. -/
theorem lex_field {row field : String} (hrow : isName row = true) (hfield : isName field = true) {rest : List Char}
    (hrest : Ends isWordChar rest) : lex (row.toList ++ '.' :: (field.toList ++ rest)) =
      (lex rest).map ([.word row, .dot, .word field] ++ ·) := by
  rw [lex_name hrow (ends_cons (by decide)), lex_mark (t := .dot) (by simp [marks]), lex_name hfield hrest]
  simp [Option.map_map, Function.comp_def]

theorem lexes_field {row field : String} (hrow : isName row = true) (hfield : isName field = true) :
    Lexes (row.toList ++ '.' :: field.toList) [.word row, .dot, .word field] := by
  intro rest hrest
  rw [List.append_assoc, List.cons_append]
  exact lex_field hrow hfield (hrest.ends (by decide))

/-- A member of a bag of attributes, in parentheses. -/
theorem lex_member {row field : String} {name rest : List Char} (hrow : isName row = true)
    (hfield : isName field = true) (hname : ∀ c ∈ name, c ≠ '\'') :
    lex ('(' :: (row.toList ++ '.' :: (field.toList ++ '-' :: '>' :: '>' :: '\'' :: (name ++ '\'' :: ')' :: rest)))) =
      (lex rest).map ([.openParen, .word row, .dot, .word field, .arrow, .quoted (String.ofList name),
        .closeParen] ++ ·) := by
  have harrow : lex ('-' :: '>' :: '>' :: '\'' :: (name ++ '\'' :: ')' :: rest)) =
      (lex ('\'' :: (name ++ '\'' :: ')' :: rest))).map (.arrow :: ·) :=
    lex_sign (by decide) (List.all_eq_true.1 (by decide : ['>', '>'].all isSignChar = true)) (ends_cons (by decide))
      (by decide)
  rw [lex_mark (t := .openParen) (by simp [marks]), lex_field hrow hfield (ends_cons (by decide)), harrow,
    lex_quoted hname (ends_cons (by decide)), lex_mark (t := .closeParen) (by simp [marks])]
  simp [Option.map_map, Function.comp_def]

end Cohort.Sql
