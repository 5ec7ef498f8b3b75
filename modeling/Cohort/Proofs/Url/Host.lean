import Cohort.Proofs.Numeral
import Cohort.Proofs.Text.Composition
import Cohort.Url.Host
import Mathlib.Data.List.TakeWhile

/-!
# Hosts with an at sign

No host has an at sign. A domain name is refused for it, however it is spelled: percent-encoding and UTF-8 leave the
sign as it is (`mem_decode`, `mem_of_fromUTF8?`), and so does the composition of the name (`toAscii?_eq_none`). An
address between brackets is refused too, as the sign is no digit (`ipv6?_eq_none`). Which of the two is the fault
depends on the first character only (`readHost_eq_error`).
-/

namespace Cohort

/-- Each element of a list that is mapped has an image. -/
theorem exists_of_mapM {α β : Type} {f : α → Option β} : ∀ {xs : List α} {ys : List β}, xs.mapM f = some ys →
    ∀ {x : α}, x ∈ xs → ∃ y ∈ ys, f x = some y
  | [], _, _, _, hx => absurd hx List.not_mem_nil
  | a :: xs, ys, h, x, hx => by
    rw [List.mapM_cons] at h
    obtain ⟨b, hb, h⟩ := Option.bind_eq_some_iff.1 h
    obtain ⟨bs, hbs, h⟩ := Option.bind_eq_some_iff.1 h
    cases h
    rcases List.mem_cons.1 hx with rfl | hx
    · exact ⟨b, List.mem_cons_self, hb⟩
    · obtain ⟨y, hy, hxy⟩ := exists_of_mapM hbs hx
      exact ⟨y, List.mem_cons_of_mem _ hy, hxy⟩

/-- A character that is no separator is in one of the parts. -/
theorem Text.exists_mem_parts (isSeparator : Char → Bool) {c : Char} (hc : isSeparator c = false) :
    ∀ {cs : List Char}, c ∈ cs → ∃ p ∈ parts isSeparator cs, c ∈ p
  | [], h => absurd h List.not_mem_nil
  | d :: cs, h => by
    rw [parts]
    split
    · rename_i hd
      rcases List.mem_cons.1 h with rfl | h
      · rw [hc] at hd
        cases hd
      · obtain ⟨p, hp, hcp⟩ := exists_mem_parts isSeparator hc h
        exact ⟨p, List.mem_cons_of_mem _ hp, hcp⟩
    · split
      · rename_i hnil
        exact absurd hnil (parts_ne_nil _ _)
      · rename_i p ps hparts
        rcases List.mem_cons.1 h with rfl | h
        · exact ⟨c :: p, List.mem_cons_self, List.mem_cons_self⟩
        · obtain ⟨q, hq, hcq⟩ := exists_mem_parts isSeparator hc h
          rw [hparts] at hq
          rcases List.mem_cons.1 hq with rfl | hq
          · exact ⟨d :: q, List.mem_cons_self, List.mem_cons_of_mem _ hcq⟩
          · exact ⟨q, List.mem_cons_of_mem _ hq, hcq⟩

namespace Url

/-! ## Bytes -/

/-- A byte of ASCII is written for no other character. -/
theorem eq_of_mem_utf8EncodeChar {c d : Char} (hd : d.toNat < 0x80) (h : d.toNat.toUInt8 ∈ String.utf8EncodeChar c) :
    c = d := by
  have hlt : c.val.toNat < 0x110000 := by
    have := c.valid
    simp only [UInt32.isValidChar, Nat.isValidChar] at this
    omega
  have hbyte {n : ℕ} (h : d.toNat.toUInt8 = UInt8.ofNat n) (hn : n < 256) : d.toNat = n := by
    have := congrArg UInt8.toNat h
    simp only [Nat.toUInt8, UInt8.toNat_ofNat'] at this
    omega
  unfold String.utf8EncodeChar at h
  dsimp only at h
  split at h
  · rw [List.mem_singleton] at h
    exact Char.toNat_inj.1 (hbyte h (by omega)).symm
  · split at h
    · simp only [List.mem_cons, List.not_mem_nil, or_false] at h
      rcases h with h | h <;> have := hbyte h (by omega) <;> omega
    · split at h
      · simp only [List.mem_cons, List.not_mem_nil, or_false] at h
        rcases h with h | h | h <;> have := hbyte h (by omega) <;> omega
      · simp only [List.mem_cons, List.not_mem_nil, or_false] at h
        rcases h with h | h | h | h <;> have := hbyte h (by omega) <;> omega

/-- A byte of ASCII that is read as UTF-8 is its character. -/
theorem mem_of_fromUTF8? {bytes : List UInt8} {s : String} (h : String.fromUTF8? ⟨bytes.toArray⟩ = some s) {d : Char}
    (hd : d.toNat < 0x80) (hbytes : d.toNat.toUInt8 ∈ bytes) : d ∈ s.toList := by
  have hencoded : bytes = s.toList.flatMap String.utf8EncodeChar := by
    unfold String.fromUTF8? at h
    split at h
    · cases h
      have hread : (String.fromUTF8 ⟨bytes.toArray⟩ ‹_›).toList.utf8Encode = ⟨bytes.toArray⟩ := String.utf8Encode_toList
      have hdata := congrArg (fun b => b.data.toList) hread
      simpa [List.utf8Encode] using hdata.symm
    · cases h
  rw [hencoded] at hbytes
  obtain ⟨c, hc, hmem⟩ := List.mem_flatMap.1 hbytes
  rwa [← eq_of_mem_utf8EncodeChar hd hmem]

/-- A sign that is no digit of base sixteen belongs to no percent-encoding. -/
theorem mem_decode {c : Char} {b : UInt8} (hc : Numeral.hexValue? c = none) (hpercent : c ≠ '%')
    (hb : b ∈ String.utf8EncodeChar c) {cs : List Char} (h : c ∈ cs) : b ∈ decode cs := by
  fun_induction decode cs with
  | case1 => exact absurd h List.not_mem_nil
  | case2 x y rest m n hy hx ih =>
    simp only [List.mem_cons, hpercent, false_or] at h
    rcases h with rfl | rfl | h
    · rw [hc] at hx
      cases hx
    · rw [hc] at hy
      cases hy
    · exact List.mem_cons_of_mem _ (ih h)
  | case3 x y rest hdigits ih =>
    simp only [List.mem_cons, hpercent, false_or] at h
    exact List.mem_cons_of_mem _ (ih (by simpa using h))
  | case4 d rest hplain ih =>
    rcases List.mem_cons.1 h with rfl | h
    · exact List.mem_append_left _ hb
    · exact List.mem_append_right _ (ih h)

/-! ## Domain names -/

/-- Neither the mapping of the characters of a name nor its composition removes the sign. -/
theorem toAscii?_eq_none {cs : List Char} (h : '@' ∈ cs) : Domain.toAscii? forbiddenInDomain cs = none := by
  unfold Domain.toAscii? Domain.normalized?
  cases hmapped : cs.mapM Domain.mapped? with
  | none => rfl
  | some ps =>
    obtain ⟨p, hp, hat⟩ := exists_of_mapM hmapped h
    have hp' : p = ['@'] := by
      have : Domain.mapped? '@' = some ['@'] := rfl
      rw [hat] at this
      exact Option.some_inj.1 this
    have hmem : '@' ∈ Text.composed ps.flatten :=
      Text.standsApart_at.mem_composed (List.mem_flatten.2 ⟨p, hp, hp' ▸ List.mem_singleton_self '@'⟩)
    have hforbidden : (Text.composed ps.flatten).any forbiddenInDomain = true :=
      List.any_eq_true.2 ⟨'@', hmem, by decide⟩
    exact if_pos hforbidden

theorem readDomain_eq_error {cs : List Char} (h : '@' ∈ cs) : readDomain cs = .error .domainName := by
  unfold readDomain
  split
  · rfl
  · rename_i s hs
    have hmem : '@' ∈ s.toList := mem_of_fromUTF8? hs (by decide) (mem_decode (by decide) (by decide) (by decide) h)
    rw [toAscii?_eq_none hmem]

/-! ## Addresses between brackets -/

theorem byte?_eq_none {ds : List Char} (h : '@' ∈ ds) : byte? ds = none := by
  unfold byte?
  split
  · rfl
  · cases hn : Numeral.natural? ds with
    | none => rfl
    | some n => exact absurd ((Numeral.natural?_eq_some.1 hn).1.digit '@' h) (by decide)

theorem embeddedPieces?_eq_none {cs : List Char} (h : '@' ∈ cs) : embeddedPieces? cs = none := by
  unfold embeddedPieces?
  cases hparts : (Text.parts (fun c => c == '.') cs).mapM byte? with
  | none => rfl
  | some ns =>
    obtain ⟨p, hp, hmem⟩ := Text.exists_mem_parts (fun c => c == '.') (by decide) h
    obtain ⟨n, -, hn⟩ := exists_of_mapM hparts hp
    rw [byte?_eq_none hmem] at hn
    cases hn

theorem readPieces?_eq_none : ∀ {fuel : ℕ} {pieces : List ℕ} {gap : Option ℕ} {cs : List Char}, '@' ∈ cs →
    readPieces? fuel pieces gap cs = none
  | _, _, _, [], h => absurd h List.not_mem_nil
  | 0, _, _, _ :: _, _ => rfl
  | fuel + 1, pieces, gap, c :: cs, h => by
    rw [readPieces?]
    split
    · rfl
    · split
      · rename_i hcolon
        have hrest : '@' ∈ cs := (List.mem_cons.1 h).resolve_left (by rw [hcolon]; decide)
        split
        · rfl
        · exact readPieces?_eq_none hrest
      · dsimp only
        generalize hds : ((c :: cs).take 4).takeWhile (fun d => (Numeral.hexValue? d).isSome) = ds
        -- the sign is behind the digits
        have hbehind : '@' ∈ (c :: cs).drop ds.length := by
          have hprefix : ds <+: c :: cs := by
            rw [← hds]
            exact (List.takeWhile_prefix _).trans (List.take_prefix _ _)
          obtain ⟨rest, hrest⟩ := hprefix
          rw [← hrest] at h ⊢
          rw [List.drop_left]
          refine (List.mem_append.1 h).resolve_left fun hmem => ?_
          rw [← hds] at hmem
          exact absurd (List.mem_takeWhile_imp hmem) (by decide)
        split
        · rename_i hnil
          rw [hnil] at hbehind
          cases hbehind
        · split
          · rfl
          · rw [embeddedPieces?_eq_none h, Option.map_none]
        · rename_i rest hcolon
          rw [hcolon] at hbehind
          have hrest : '@' ∈ rest := (List.mem_cons.1 hbehind).resolve_left (by decide)
          split
          · rfl
          · exact readPieces?_eq_none hrest
        · rfl

theorem ipv6?_eq_none {cs : List Char} (h : '@' ∈ cs) : ipv6? cs = none := by
  unfold ipv6?
  split
  · rename_i rest
    have hrest : '@' ∈ rest := by simpa using h
    dsimp only
    rw [readPieces?_eq_none hrest]
    rfl
  · rfl
  · dsimp only
    rw [readPieces?_eq_none h]
    rfl

/-! ## Hosts -/

/-- **No host has an at sign.** -/
theorem readHost_eq_error {cs : List Char} (h : '@' ∈ cs) :
    readHost true cs = .error (if cs.head? = some '[' then .ipv6 else .domainName) := by
  unfold readHost
  split
  · rename_i rest
    have hrest : '@' ∈ rest := (List.mem_cons.1 h).resolve_left (by decide)
    rw [List.head?_cons, if_pos rfl]
    split
    · rename_i hlast
      -- the last character is the bracket, so the sign is before it
      have hinner : '@' ∈ rest.dropLast := by
        obtain ⟨front, rfl⟩ := List.getLast?_eq_some_iff.1 hlast
        rw [List.dropLast_concat]
        exact (List.mem_append.1 hrest).resolve_right (by decide)
      rw [ipv6?_eq_none hinner]
    · rfl
  · rename_i hbracket
    have hhead : cs.head? ≠ some '[' := fun hhead => by
      obtain ⟨rest, rfl⟩ := List.head?_eq_some_iff.1 hhead
      exact hbracket rest rfl
    rw [if_pos rfl, if_neg hhead, readDomain_eq_error h]

end Url
end Cohort
