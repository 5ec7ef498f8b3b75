import Cohort.Proofs.Sql.Syntax
import Mathlib.Data.List.Forall2

/-!
# Words in their surroundings

`Everywhere P us` says that `P before t after` holds of every word `t` of `us`, where `before` and `after` are the words
of `us` around it. If more words around do not matter to `P` (`Stable`), it holds of texts that are put together from
such texts (`Everywhere.append`, `Everywhere.connect`, `Everywhere.paren`).

`introductions` lists the names of rows that a text introduces. A name is `Bound` by the words before it if they
introduce it behind a parenthesis that is still open, or behind none. `Scopes names us rows` says that `us` introduces
`rows`, and that every alias in `us` is introduced where it stands, or bound, or one of `names`.
-/

namespace Cohort.Sql

/-! ## Every word -/

/-- A property of a word and the words around it holds of every word of a text. -/
def Everywhere (P : List Token → Token → List Token → Prop) (us : List Token) : Prop :=
  ∀ before t after, us = before ++ t :: after → P before t after

/-- More words around do not matter. -/
def Stable (P : List Token → Token → List Token → Prop) : Prop :=
  ∀ {before : List Token} {t : Token} {after : List Token} (us vs : List Token),
    P before t after → P (us ++ before) t (after ++ vs)

section

variable {P : List Token → Token → List Token → Prop} {us vs : List Token}

theorem everywhere_of_forall (h : ∀ t ∈ us, ∀ before after, P before t after) : Everywhere P us := by
  intro before t after hus
  exact h t (hus ▸ List.mem_append_right _ List.mem_cons_self) before after

theorem Everywhere.imp {Q : List Token → Token → List Token → Prop} (h : Everywhere P us)
    (hPQ : ∀ before t after, P before t after → Q before t after) : Everywhere Q us :=
  fun before t after hus => hPQ before t after (h before t after hus)

theorem everywhere_nil : Everywhere P [] := everywhere_of_forall (by simp)

theorem everywhere_cons {t : Token} (ht : P [] t us) (h : Everywhere (fun before => P (t :: before)) us) :
    Everywhere P (t :: us) := by
  intro before u after hsplit
  cases before with
  | nil =>
    cases hsplit
    exact ht
  | cons a before =>
    cases hsplit
    exact h before u after rfl

/-- A text behind another one, seen together with it. -/
theorem Everywhere.behind (hP : Stable P) (h : Everywhere P us) (h' : Everywhere (fun before => P (us ++ before)) vs) :
    Everywhere P (us ++ vs) := by
  intro before t after hsplit
  -- The word is in the second text, or in the first one, with the second one among the words after it.
  obtain ⟨mid, rfl, hvs⟩ | ⟨mid, rfl, hafter⟩ := List.append_eq_append_iff.1 hsplit
  · exact h' mid t after hvs
  · cases mid with
    | nil =>
      have := h' [] t after hafter.symm
      rwa [List.append_nil, List.append_nil] at this
    | cons u mid =>
      cases hafter
      exact hP [] vs (h before t mid rfl)

theorem Everywhere.shift (hP : Stable P) (h : Everywhere P vs) (us : List Token) :
    Everywhere (fun before => P (us ++ before)) vs := by
  intro before t after hvs
  have := hP us [] (h before t after hvs)
  rwa [List.append_nil] at this

theorem Everywhere.append (hP : Stable P) (h : Everywhere P us) (h' : Everywhere P vs) : Everywhere P (us ++ vs) :=
  h.behind hP (h'.shift hP us)

theorem Everywhere.connect (hP : Stable P) {k : Connective} (hk : Everywhere P [connector k]) :
    ∀ {uss : List (List Token)}, (∀ us ∈ uss, Everywhere P us) → Everywhere P ([connector k].intercalate uss)
  | [], _ => everywhere_nil
  | [us], h => by
    rw [List.intercalate_singleton]
    exact h us List.mem_cons_self
  | us :: vs :: uss, h => by
    rw [List.intercalate_cons_cons]
    exact ((h us List.mem_cons_self).append hP hk).append hP
      (Everywhere.connect hP hk fun ws hws => h ws (List.mem_cons_of_mem _ hws))

theorem Everywhere.paren (hP : Stable P) (hopen : Everywhere P [.openParen]) (hclose : Everywhere P [.closeParen])
    (h : Everywhere P us) : Everywhere P (.openParen :: (us ++ [.closeParen])) :=
  hopen.append hP (h.append hP hclose)

end

/-! ## Open parentheses -/

/-- Some words close only parentheses that they have opened. -/
def Open (us : List Token) : Prop := ∀ xs, xs <+: us → xs.count .closeParen ≤ xs.count .openParen

section

variable {us vs : List Token}

theorem Open.of_prefix (h : Open us) (hvs : vs <+: us) : Open vs := fun xs hxs => h xs (hxs.trans hvs)

theorem open_of_forall (h : ∀ t ∈ us, t ≠ .closeParen) : Open us := by
  intro xs hxs
  rw [List.count_eq_zero_of_not_mem fun hmem => h _ (hxs.subset hmem) rfl]
  exact Nat.zero_le _

theorem prefix_append_cases {xs : List Token} (h : xs <+: us ++ vs) : xs <+: us ∨ ∃ ys, xs = us ++ ys ∧ ys <+: vs := by
  obtain ⟨zs, h⟩ := h
  obtain ⟨ys, rfl, -⟩ | ⟨ys, rfl, hvs⟩ := List.append_eq_append_iff.1 h
  · exact .inl (List.prefix_append _ _)
  · exact .inr ⟨ys, rfl, zs, hvs.symm⟩

theorem Open.append (h : Open us) (h' : Open vs) : Open (us ++ vs) := by
  intro xs hxs
  obtain hxs | ⟨ys, rfl, hys⟩ := prefix_append_cases hxs
  · exact h xs hxs
  · rw [List.count_append, List.count_append]
    exact Nat.add_le_add (h us List.prefix_rfl) (h' ys hys)

theorem Open.paren (h : Open us) : Open (.openParen :: (us ++ [.closeParen])) := by
  intro xs hxs
  cases xs with
  | nil => exact Nat.le_refl 0
  | cons t xs =>
    obtain ⟨rfl, hrest⟩ := List.cons_prefix_cons.1 hxs
    -- The parenthesis in front makes up for the one that may be closed at the end.
    have hlt : xs.count .closeParen ≤ xs.count .openParen + 1 := by
      obtain hxs | ⟨ys, rfl, hys⟩ := prefix_append_cases hrest
      · exact Nat.le_succ_of_le (h xs hxs)
      · have hclose : ys.count .closeParen ≤ 1 := hys.sublist.count_le .closeParen
        have hus := h us List.prefix_rfl
        rw [List.count_append, List.count_append]
        omega
    simpa using hlt

end

/-! ## Names of rows -/

/-- The name of rows that some words introduce right at their start. -/
def introduced? : List Token → Option String
  | .keyword .fromRows :: .word table :: .word name :: _ => if table = rowTable then some name else none
  | _ => none

/-- The names of rows that a text introduces, from left to right. -/
def introductions : List Token → List String
  | [] => []
  | t :: ts => (introduced? (t :: ts)).toList ++ introductions ts

/-- A name that follows is introduced there. -/
def Introducing (before : List Token) : Prop := [.keyword .fromRows, .word rowTable] <:+ before

/-- A name is introduced before, and all parentheses around the place where it is are still open. -/
def Bound (before : List Token) (name : String) : Prop :=
  ∃ outer inner, before = outer ++ .keyword .fromRows :: .word rowTable :: .word name :: inner ∧ Open inner

/-- If a word is an alias, it is introduced there, or one of some names, or bound. -/
def Scoped (names : List String) (before : List Token) (t : Token) (_ : List Token) : Prop :=
  ∀ n, t = .word (Alias.numbered n).text →
    Introducing before ∨ (Alias.numbered n).text ∈ names ∨ Bound before (Alias.numbered n).text

theorem introduced?_of_ne {t : Token} (h : t ≠ .keyword .fromRows) (ts : List Token) :
    introduced? (t :: ts) = none := by
  unfold introduced?
  split
  · rename_i heq
    cases heq
    exact absurd rfl h
  · rfl

theorem introductions_rows (name : String) (ts : List Token) : introductions (.keyword .fromRows :: .word rowTable ::
    .word name :: .keyword .whereHolds :: ts) = name :: introductions ts := rfl

theorem Introducing.behind {before : List Token} (h : Introducing before) (us : List Token) :
    Introducing (us ++ before) := h.trans (List.suffix_append _ _)

theorem Bound.behind {before : List Token} {name : String} (h : Bound before name) (us : List Token) :
    Bound (us ++ before) name := by
  obtain ⟨outer, inner, rfl, hinner⟩ := h
  exact ⟨us ++ outer, inner, (List.append_assoc _ _ _).symm, hinner⟩

theorem stable_scoped (names : List String) : Stable (Scoped names) := by
  intro before t after us vs h n ht
  exact (h n ht).imp (fun hi => hi.behind us) fun hb => hb.imp id fun hb => hb.behind us

theorem toList_numbered (n : Nat) : (Alias.numbered n).text.toList = 'p' :: 'e' :: Numeral.digits n := by
  simp [Alias.text, Numeral.natText]

/-- A text that starts in another way is no alias. -/
theorem ne_numbered {s : String} (h : s.toList.take 2 ≠ ['p', 'e']) (n : Nat) : s ≠ (Alias.numbered n).text := by
  rintro rfl
  rw [toList_numbered] at h
  exact h rfl

/-- **The names of rows in a text whose surroundings bind some names.** -/
structure Scopes (names : List String) (us : List Token) (rows : List String) : Prop where
  /-- The rows that it introduces, whatever follows. -/
  introduces : ∀ vs, introductions (us ++ vs) = rows ++ introductions vs
  /-- It closes no parenthesis of its surroundings. -/
  opens : Open us
  /-- Every alias in it is introduced there, or bound. -/
  aliases : Everywhere (Scoped names) us

section

variable {names news news' : List String} {us vs : List Token}

/-- A word that introduces nothing, closes nothing and is no alias but for some names. -/
def Token.Idle (names : List String) (t : Token) : Prop :=
  t ≠ .keyword .fromRows ∧ t ≠ .closeParen ∧ ∀ n, t = .word (Alias.numbered n).text → (Alias.numbered n).text ∈ names

/-- A word that is idle whatever the names are. -/
def Token.isMark : Token → Bool
  | .word _ | .keyword .fromRows | .closeParen => false
  | _ => true

theorem idle_mark {t : Token} (h : t.isMark = true) : t.Idle names := by
  refine ⟨?_, ?_, fun n => ?_⟩ <;> rintro rfl <;> cases h

theorem idle_word {s : String} (h : s.toList.take 2 ≠ ['p', 'e']) : (Token.word s).Idle names :=
  ⟨by simp, by simp, fun n hn => absurd (Token.word.inj hn) (ne_numbered h n)⟩

theorem idle_name {s : String} (h : s ∈ names) : (Token.word s).Idle names :=
  ⟨by simp, by simp, fun _ hn => Token.word.inj hn ▸ h⟩

theorem scopes_nil : Scopes names [] [] where
  introduces _ := rfl
  opens := open_of_forall (by simp)
  aliases := everywhere_nil

/-- The rows that it introduces, if nothing follows. -/
theorem Scopes.introductions_eq (h : Scopes names us news) : introductions us = news := by
  have := h.introduces []
  rwa [List.append_nil, introductions, List.append_nil] at this

theorem Scopes.append (h : Scopes names us news) (h' : Scopes names vs news') :
    Scopes names (us ++ vs) (news ++ news') where
  introduces ws := by rw [List.append_assoc, h.introduces, h'.introduces, List.append_assoc]
  opens := h.opens.append h'.opens
  aliases := h.aliases.append (stable_scoped names) h'.aliases

theorem scopes_tokens : ∀ {us : List Token}, (∀ t ∈ us, t.Idle names) → Scopes names us []
  | [], _ => scopes_nil
  | t :: us, h => by
    obtain ⟨hfrom, hclose, hname⟩ := h t List.mem_cons_self
    have ht : Scopes names [t] [] := by
      refine ⟨fun vs => ?_, open_of_forall (by simpa using hclose), everywhere_cons ?_ everywhere_nil⟩
      · show (introduced? (t :: vs)).toList ++ introductions vs = introductions vs
        rw [introduced?_of_ne hfrom]
        rfl
      · intro n hn
        exact .inr (.inl (hname n hn))
    exact ht.append (scopes_tokens fun u hu => h u (List.mem_cons_of_mem _ hu))

theorem scopes_marks (h : us.all Token.isMark = true) : Scopes names us [] :=
  scopes_tokens fun t ht => idle_mark (List.all_eq_true.1 h t ht)

theorem Scopes.paren (h : Scopes names us news) : Scopes names (.openParen :: (us ++ [.closeParen])) news where
  introduces ws := by
    show introductions ((us ++ [.closeParen]) ++ ws) = _
    rw [List.append_assoc, h.introduces]
    rfl
  opens := h.opens.paren
  aliases := by
    have hother {t : Token} (ht : ∀ s, t ≠ .word s) : Everywhere (Scoped names) [t] :=
      everywhere_cons (fun n hn => absurd hn (ht _)) everywhere_nil
    exact .paren (stable_scoped names) (hother (by simp)) (hother (by simp)) h.aliases

theorem Scopes.connect (k : Connective) : ∀ {uss : List (List Token)} {newss : List (List String)},
    List.Forall₂ (Scopes names) uss newss → Scopes names ([connector k].intercalate uss) newss.flatten
  | [], _, .nil => scopes_nil
  | [us], _, .cons h .nil => by
    rw [List.intercalate_singleton, List.flatten_singleton]
    exact h
  | us :: vs :: uss, _, .cons h (.cons h' hs) => by
    have hk : Scopes names [connector k] [] := scopes_marks (by cases k <;> rfl)
    have := (h.append hk).append (Scopes.connect k (.cons h' hs))
    rwa [List.append_nil, ← List.intercalate_cons_cons] at this

theorem Scopes.rows {row : String} (h : Scopes (row :: names) us news) :
    Scopes names ([.keyword .fromRows, .word rowTable, .word row, .keyword .whereHolds] ++ us) (row :: news) where
  introduces ws := by
    show introductions (_ :: _ :: _ :: _ :: (us ++ ws)) = _
    rw [introductions_rows, h.introduces]
    rfl
  opens := (open_of_forall (by simp)).append h.opens
  aliases := by
    refine Everywhere.behind (stable_scoped names) ?_ ?_
    · refine everywhere_cons (by simp [Scoped]) (everywhere_cons ?_ (everywhere_cons ?_ (everywhere_cons
        (by simp [Scoped]) everywhere_nil)))
      · intro n hn
        exact absurd (Token.word.inj hn) (ne_numbered (by decide) n)
      · intro n hn
        exact .inl List.suffix_rfl
    · intro before t after hus n hn
      obtain hi | hb | hb := h.aliases before t after hus n hn
      · exact .inl (hi.behind _)
      · rcases List.mem_cons.1 hb with hrow | hb
        · -- The words since the introduction are a start of a text that closes no parenthesis around it.
          have hsince : Open ([.keyword .whereHolds] ++ before) :=
            (open_of_forall (by simp)).append (h.opens.of_prefix ⟨t :: after, hus.symm⟩)
          exact .inr (.inr ⟨[], .keyword .whereHolds :: before, by rw [hrow]; rfl, hsince⟩)
        · exact .inr (.inl hb)
      · exact .inr (.inr (hb.behind _))

end

end Cohort.Sql
