import Cohort.Proofs.Url.Credentials

/-!
# Passwords of addresses as they are shown

Two addresses that differ only in their passwords are shown alike if they are read, whatever stands around the
passwords. If they are not read, what is shown is the first and the last characters of a long text, and the passwords
can be among them. `maskUrl_eq_iff` says when the addresses are shown alike: then and only then, a reader who sees one
of them does not learn which. `maskUrl_shown` is an address without a host, whose password is shown as a whole.
-/

namespace Cohort

open Url

/-! ## Ends of a text -/

section Ends

variable {α : Type} {before p q after : List α}

theorem take_around_eq_iff (hlength : p.length = q.length) (n : ℕ) :
    (before ++ p ++ after).take n = (before ++ q ++ after).take n ↔
      p.take (n - before.length) = q.take (n - before.length) := by
  simp only [List.append_assoc, List.take_append, List.append_cancel_left_eq]
  rw [hlength, List.append_cancel_right_eq]

theorem drop_around_eq_iff (hlength : p.length = q.length) (n : ℕ) :
    (before ++ p ++ after).drop ((before ++ p ++ after).length - n) =
        (before ++ q ++ after).drop ((before ++ q ++ after).length - n) ↔
      p.drop (p.length - (n - after.length)) = q.drop (q.length - (n - after.length)) := by
  have hdrop : ∀ r : List α, r.length = q.length →
      r.drop ((before ++ r ++ after).length - n - before.length) = r.drop (q.length - (n - after.length)) := by
    intro r hr
    simp only [List.length_append, hr]
    by_cases hn : n ≤ after.length
    · rw [List.drop_of_length_le (by omega), List.drop_of_length_le (by omega)]
    · congr 1
      omega
  have hwhole : (before ++ p ++ after).length = (before ++ q ++ after).length := by simp [hlength]
  have hp := hdrop p hlength
  have hq := hdrop q rfl
  rw [hwhole] at hp ⊢
  generalize (before ++ q ++ after).length - n = i at hp hq ⊢
  rw [hlength, ← hp, ← hq]
  simp only [List.append_assoc, List.drop_append, List.append_cancel_left_eq]
  rw [hlength, List.append_cancel_right_eq]

end Ends

/-! ## Texts that are no addresses -/

/-- Texts of one length are shown alike if they are short or have the same ends. -/
theorem maskText_eq_iff {xs ys : List Char} (hlength : xs.length = ys.length) : maskText xs = maskText ys ↔
    xs.length ≤ maskLimit ∨ xs.take shownEnds = ys.take shownEnds ∧
      xs.drop (xs.length - shownEnds) = ys.drop (ys.length - shownEnds) := by
  unfold maskText
  rw [← hlength]
  by_cases hlong : maskLimit < xs.length
  · have hends : (xs.take shownEnds).length = (ys.take shownEnds).length := by
      rw [List.length_take, List.length_take, hlength]
    rw [if_pos hlong, if_pos hlong, List.append_assoc, List.append_assoc]
    constructor
    · intro h
      obtain ⟨hfirst, hrest⟩ := List.append_inj h hends
      exact .inr ⟨hfirst, List.append_cancel_left hrest⟩
    · rintro (hshort | ⟨hfirst, hlast⟩)
      · omega
      · rw [hfirst, hlast]
  · rw [if_neg hlong, if_neg hlong]
    exact iff_of_true rfl (.inl (not_lt.1 hlong))

/-! ## Addresses -/

theorem maskUrl_of_ok {cs : List Char} {u : Url} (h : readChars cs = .ok u) :
    maskUrl (String.ofList cs) = u.masked.text := by
  rw [maskUrl, Url.read, String.toList_ofList, h]

theorem maskUrl_of_error {cs : List Char} {e : Url.Error} (h : readChars cs = .error e) :
    maskUrl (String.ofList cs) = String.ofList (maskText cs) := by
  rw [maskUrl, Url.read, String.toList_ofList, h]

/-- **When a password makes no difference to what is shown of an address.** Two passwords of the same length that need
no encoding make no difference to whether a text is an address, and to which one but for the password itself. With
either password the same is shown, if and only if the text is an address, or it is hidden as a whole, or the passwords
agree as far as they are among its first ten and its last ten characters. -/
theorem maskUrl_eq_iff {f : Frame} {p q : List Char} (hp : IsPassword p) (hq : IsPassword q)
    (hlength : p.length = q.length) :
    (Url.read (f.text p)).map Url.masked = (Url.read (f.text q)).map Url.masked ∧
      (maskUrl (f.text p) = maskUrl (f.text q) ↔
        (∃ u, Url.read (f.text p) = .ok u) ∨ (f.chars p).length ≤ maskLimit ∨
          p.take (shownEnds - f.before.length) = q.take (shownEnds - f.before.length) ∧
            p.drop (p.length - (shownEnds - f.after.length)) = q.drop (q.length - (shownEnds - f.after.length))) := by
  obtain ⟨r, hr⟩ := readChars_masked f
  have hpr := hr p hp
  have hqr := hr q hq
  rw [Frame.text, Frame.text, Url.read, Url.read, String.toList_ofList, String.toList_ofList]
  refine ⟨hpr.trans hqr.symm, ?_⟩
  cases r with
  | ok w =>
    obtain ⟨u, hu, rfl⟩ := check_map_ok.1 hpr
    obtain ⟨v, hv, hw⟩ := check_map_ok.1 hqr
    rw [maskUrl_of_ok hu, maskUrl_of_ok hv, hw]
    exact iff_of_true rfl (.inl ⟨u, hu⟩)
  | error e =>
    have hp := check_map_error.1 hpr
    have hwhole : (f.chars p).length = (f.chars q).length := by simp [Frame.chars, hlength]
    rw [maskUrl_of_error hp, maskUrl_of_error (check_map_error.1 hqr), String.ofList_inj, maskText_eq_iff hwhole,
      Frame.chars, Frame.chars, take_around_eq_iff hlength, drop_around_eq_iff hlength]
    constructor
    · exact .inr
    · rintro (⟨u, hu⟩ | h)
      · rw [← Frame.chars, hp] at hu
        cases hu
      · exact h

/-- With a host the text is an address, and without one the path is too long for the password to be shown. -/
theorem maskUrl_eq_iff_hidden :
    let p := "s3cret".toList
    let q := "passwd".toList
    let host : Frame := ⟨"postgresql".toList, "app".toList, "db:5432".toList, "groups".toList, by decide, by decide⟩
    let socket : Frame := ⟨"postgresql".toList, "app".toList, [], "groups_db".toList, by decide, by decide⟩
    IsPassword p ∧ IsPassword q ∧ p.length = q.length ∧ maskUrl (host.text p) = maskUrl (host.text q) ∧
      maskUrl (socket.text p) = maskUrl (socket.text q) ∧ ∀ u, Url.read (socket.text p) ≠ .ok u := by
  intro p q host socket
  have hp : IsPassword p := ⟨by decide, by decide⟩
  have hq : IsPassword q := ⟨by decide, by decide⟩
  have hhost : ∃ u, Url.read (host.text p) = .ok u := exists_of_isOk (by decide +kernel)
  have hsocket : (Url.read (socket.text p)).isOk = false := by decide +kernel
  have hends : p.take (shownEnds - socket.before.length) = q.take (shownEnds - socket.before.length) ∧
      p.drop (p.length - (shownEnds - socket.after.length)) =
        q.drop (q.length - (shownEnds - socket.after.length)) := by
    decide +kernel
  have hlength : p.length = q.length := by decide +kernel
  refine ⟨hp, hq, hlength, (maskUrl_eq_iff hp hq hlength).2.2 (.inl hhost),
    (maskUrl_eq_iff hp hq hlength).2.2 (.inr (.inr hends)), fun u hu => ?_⟩
  rw [hu] at hsocket
  cases hsocket

/-- Without a host, a short path leaves the password among the last ten characters. -/
theorem maskUrl_shown :
    let p := "s3cret".toList
    let q := "passwd".toList
    let socket : Frame := ⟨"postgresql".toList, "app".toList, [], "db".toList, by decide, by decide⟩
    IsPassword p ∧ IsPassword q ∧ p.length = q.length ∧ socket.text p = "postgresql://app:s3cret@/db" ∧
      maskUrl (socket.text p) = "postgresql***s3cret@/db" ∧ maskUrl (socket.text q) = "postgresql***passwd@/db" :=
  ⟨⟨by decide, by decide⟩, ⟨by decide, by decide⟩, rfl, by decide +kernel, by decide +kernel, by decide +kernel⟩

end Cohort
