import Cohort.Proofs.Checking
import Cohort.Proofs.Url.Host
import Cohort.Url.Masking

/-!
# Addresses with credentials

Behind its scheme, an address with credentials is read as the one without them, which the credentials are put into if
it has a host and which is refused otherwise (`readAuthority_credentials`). The address of a file has no credentials and
is refused for their at sign (`readFile_credentials`). Hence what is read of an address does not depend on its password
but for the password itself: with stars for it, the addresses are the same, and so is the fault of a text that is none
(`readChars_masked`).
-/

namespace Cohort.Url

/-! ## Parts of a text -/

section Parts

variable {α : Type}

theorem takeWhile_append_stop {p : α → Bool} {xs ys : List α} (hxs : ∀ x ∈ xs, p x = true)
    (hys : ∀ y ∈ ys.head?, p y = false) : (xs ++ ys).takeWhile p = xs := by
  rw [List.takeWhile_append_of_pos hxs]
  cases ys with
  | nil => simp
  | cons y ys => rw [List.takeWhile_cons_of_neg (by simp [hys y rfl]), List.append_nil]

theorem dropWhile_append_stop {p : α → Bool} {xs ys : List α} (hxs : ∀ x ∈ xs, p x = true)
    (hys : ∀ y ∈ ys.head?, p y = false) : (xs ++ ys).dropWhile p = ys := by
  rw [List.dropWhile_append_of_pos hxs]
  cases ys with
  | nil => rfl
  | cons y ys => rw [List.dropWhile_cons_of_neg (by simp [hys y rfl])]

/-- An element that stops a search keeps what follows it in place. -/
theorem takeWhile_cons_append {p : α → Bool} {y : α} (hy : p y = false) (xs zs : List α) :
    (xs ++ y :: zs).takeWhile p = xs.takeWhile p := by
  induction xs with
  | nil => simp [hy]
  | cons x xs ih => rw [List.cons_append, List.takeWhile_cons, List.takeWhile_cons, ih]

theorem dropWhile_cons_append {p : α → Bool} {y : α} (hy : p y = false) (xs zs : List α) :
    (xs ++ y :: zs).dropWhile p = xs.dropWhile p ++ y :: zs := by
  induction xs with
  | nil => simp [hy]
  | cons x xs ih =>
    rw [List.cons_append, List.dropWhile_cons, List.dropWhile_cons]
    split
    · exact ih
    · rfl

end Parts

theorem reverse_ne_at {location : List Char} (h : '@' ∉ location) : ∀ c ∈ location.reverse, (c != '@') = true := by
  intro c hc
  have : c ≠ '@' := by
    rintro rfl
    exact h (List.mem_reverse.1 hc)
  simpa using this

theorem splitCredentials_append {info location : List Char} (h : '@' ∉ location) :
    splitCredentials (info ++ '@' :: location) = (some info, location) := by
  have hhost : ((info ++ '@' :: location).reverse.takeWhile (· != '@')).reverse = location := by
    rw [List.reverse_append, List.reverse_cons, List.append_assoc, takeWhile_append_stop (reverse_ne_at h) (by simp),
      List.reverse_reverse]
  unfold splitCredentials
  rw [hhost]
  dsimp only
  rw [if_neg (by simp; omega), show (info ++ '@' :: location).length - location.length - 1 = info.length by simp; omega,
    List.take_left]

theorem splitCredentials_none {location : List Char} (h : '@' ∉ location) :
    splitCredentials location = (none, location) := by
  have hhost : (location.reverse.takeWhile (· != '@')).reverse = location := by
    rw [List.takeWhile_eq_self_iff.2 (reverse_ne_at h), List.reverse_reverse]
  unfold splitCredentials
  rw [hhost]
  exact if_pos rfl

/-! ## Authorities -/

/-- An address with credentials. Credentials need a host. -/
def withCredentials (username password : List Char) (u : Url) : Except Error Url :=
  if u.host.any isEmptyHost then .error .emptyHost else .ok { u with username := username, password := password }

/-- **Credentials are read apart from what they stand in front of.** -/
theorem readAuthority_credentials {scheme info location tail : List Char} {special : Bool}
    (hinfo : ∀ c ∈ info, endsAuthority special c = false) (hlocation : ∀ c ∈ location, endsAuthority special c = false)
    (hat : '@' ∉ location) (htail : ∀ c ∈ tail.head?, endsAuthority special c = true)
    (hpassword : encode userinfoSet ((info.dropWhile (· != ':')).drop 1) ≠ []) :
    readAuthority scheme special (info ++ '@' :: (location ++ tail)) =
      readAuthority scheme special (location ++ tail) >>=
        withCredentials (encode userinfoSet (info.takeWhile (· != ':')))
          (encode userinfoSet ((info.dropWhile (· != ':')).drop 1)) := by
  have hstops : ∀ c ∈ tail.head?, (!endsAuthority special c) = false := fun c hc => by rw [htail c hc]; rfl
  have hall : ∀ c ∈ info ++ '@' :: location, (!endsAuthority special c) = true := by
    simp only [List.forall_mem_append, List.forall_mem_cons, Bool.not_eq_true']
    refine ⟨hinfo, ?_, hlocation⟩
    simp [endsAuthority, isSlash]
  have hplain : ∀ c ∈ location, (!endsAuthority special c) = true := fun c hc => by rw [hlocation c hc]; rfl
  have hpassword' : (encode userinfoSet ((info.dropWhile (· != ':')).drop 1)).isEmpty = false :=
    List.isEmpty_eq_false_iff.2 hpassword
  have hne : (some info == some []) = false := by
    cases info with
    | nil => exact absurd rfl hpassword
    | cons c cs => rfl
  have hnone : ((none : Option (List Char)) == some []) = false := rfl
  have hnil : encode userinfoSet [] = [] := rfl
  rw [show info ++ '@' :: (location ++ tail) = (info ++ '@' :: location) ++ tail by simp]
  unfold readAuthority
  simp only [takeWhile_append_stop hall hstops, dropWhile_append_stop hall hstops, takeWhile_append_stop hplain hstops,
    dropWhile_append_stop hplain hstops, splitCredentials_append hat, splitCredentials_none hat, hne, hnone,
    Bool.false_and, Option.getD_some, Option.getD_none, List.takeWhile_nil, List.dropWhile_nil, List.drop_nil, hnil]
  generalize encode userinfoSet (info.takeWhile (· != ':')) = username
  generalize encode userinfoSet ((info.dropWhile (· != ':')).drop 1) = password at hpassword'
  by_cases hname : (special && (hostPart false location).isEmpty) = true
  · simp only [hname]
    rfl
  · simp only [hname]
    cases readHost special (hostPart false location) with
    | error e => rfl
    | ok host =>
      by_cases hafter : (isEmptyHost host && !(location.drop (hostPart false location).length).isEmpty) = true
      · simp [hafter, bind, Except.bind]
      · simp only [hafter, bind, Except.bind, Bool.false_eq_true, if_false]
        split
        · rename_i r hr
          cases readPort scheme r with
          | error e => rfl
          | ok place => cases hhost : isEmptyHost host <;> simp [hhost, hpassword', withCredentials, pure, Except.pure]
        · cases hhost : isEmptyHost host <;> simp [hhost, hpassword', withCredentials, pure, Except.pure]

theorem encode_ne_nil {excluded : Char → Bool} {cs : List Char} (h : cs ≠ []) : encode excluded cs ≠ [] := by
  cases cs with
  | nil => exact absurd rfl h
  | cons c cs =>
    have hchar : encodeChar excluded c ≠ [] := by
      unfold encodeChar
      split
      · cases hbytes : String.utf8EncodeChar c with
        | nil => exact absurd hbytes String.utf8EncodeChar_ne_nil
        | cons b bs => simp [encodeByte]
      · simp
    rw [encode, List.flatMap_cons]
    exact List.append_ne_nil_of_left_ne_nil hchar _

/-- A password is hidden where it is put in. -/
theorem map_masked_withCredentials {username password : List Char} (h : password ≠ []) (x : Except Error Url) :
    (x >>= withCredentials username password).map masked = x >>= withCredentials username mask := by
  cases x with
  | error e => rfl
  | ok u =>
    show (withCredentials username password u).map masked = withCredentials username mask u
    unfold withCredentials
    split
    · rfl
    · simp [Except.map, masked, h]

/-! ## Addresses around a password -/

/-- A character that stands for itself in every part of an address. -/
def isUnreserved (c : Char) : Bool := c.isAlphanum || ['-', '.', '_', '~'].contains c

/-- A password that needs no encoding. -/
structure IsPassword (cs : List Char) : Prop where
  /-- There is one. -/
  ne_nil : cs ≠ []
  /-- Its characters stand for themselves. -/
  all_unreserved : cs.all isUnreserved = true

theorem IsPassword.unreserved {cs : List Char} (h : IsPassword cs) : ∀ c ∈ cs, isUnreserved c = true :=
  List.all_eq_true.1 h.all_unreserved

theorem endsAuthority_of_isUnreserved {c : Char} (h : isUnreserved c = true) : endsAuthority true c = false := by
  by_contra hends
  simp only [endsAuthority, isSlash, Bool.true_and, Bool.not_eq_false, Bool.or_eq_true, beq_iff_eq] at hends
  rcases hends with ((rfl | rfl) | rfl) | rfl <;> revert h <;> decide

theorem endsAuthority_of_special {special : Bool} {c : Char} (h : endsAuthority true c = false) :
    endsAuthority special c = false := by
  simp only [endsAuthority, isSlash, Bool.or_eq_false_iff, Bool.true_and] at h ⊢
  simp [h]

/-- The text behind the last at sign of an authority. -/
theorem exists_location (cs : List Char) : ∃ more location, '@' :: cs = more ++ '@' :: location ∧ '@' ∉ location := by
  obtain ⟨after, before, hcs, hafter⟩ := List.eq_append_cons_of_mem
    (List.mem_reverse.2 (List.mem_cons_self : '@' ∈ '@' :: cs))
  refine ⟨before.reverse, after.reverse, ?_, fun h => hafter (List.mem_reverse.1 h)⟩
  have := congrArg List.reverse hcs
  simpa using this

/-- What is read of credentials does not depend on the password but for the password itself. -/
theorem readAuthority_masked (scheme rest : List Char) (special : Bool) {user : List Char}
    (huser : ∀ c ∈ user, endsAuthority true c = false) : ∃ r, ∀ p, IsPassword p →
      (readAuthority scheme special (user ++ ':' :: (p ++ '@' :: rest))).map masked = r := by
  obtain ⟨more, location, hmore, hat⟩ := exists_location (rest.takeWhile fun c => !endsAuthority special c)
  generalize htail : rest.dropWhile (fun c => !endsAuthority special c) = tail
  have hrest : rest.takeWhile (fun c => !endsAuthority special c) ++ tail = rest := by
    rw [← htail, List.takeWhile_append_dropWhile]
  have hends : ∀ c ∈ more ++ '@' :: location, endsAuthority special c = false := by
    rw [← hmore]
    refine List.forall_mem_cons.2 ⟨by simp [endsAuthority, isSlash], fun c hc => ?_⟩
    simpa using List.mem_takeWhile_imp hc
  obtain ⟨hends, hlocation⟩ := List.forall_mem_append.1 hends
  have hstops : ∀ c ∈ tail.head?, endsAuthority special c = true := by
    intro c hc
    have := List.head?_dropWhile_not (fun c => !endsAuthority special c) rest
    rw [htail, Option.mem_def.1 hc] at this
    simpa using this
  refine ⟨readAuthority scheme special (location ++ tail) >>=
    withCredentials (encode userinfoSet (user.takeWhile (· != ':'))) mask, fun p hp => ?_⟩
  have hinfo : ∀ c ∈ user ++ ':' :: (p ++ more), endsAuthority special c = false := by
    simp only [List.forall_mem_append, List.forall_mem_cons]
    refine ⟨fun c hc => endsAuthority_of_special (huser c hc), by simp [endsAuthority, isSlash], fun c hc => ?_, hends⟩
    exact endsAuthority_of_special (endsAuthority_of_isUnreserved (hp.unreserved c hc))
  have hpassword : ((user ++ ':' :: (p ++ more)).dropWhile (· != ':')).drop 1 ≠ [] := by
    rw [dropWhile_cons_append (p := (· != ':')) rfl]
    refine List.ne_nil_of_length_pos ?_
    have := List.length_pos_of_ne_nil hp.ne_nil
    simp only [List.length_drop, List.length_append, List.length_cons]
    omega
  have htext : user ++ ':' :: (p ++ '@' :: rest) = (user ++ ':' :: (p ++ more)) ++ '@' :: (location ++ tail) := by
    have : '@' :: rest = more ++ '@' :: (location ++ tail) := by
      rw [← hrest, ← List.cons_append, hmore]
      simp
    simp [this]
  rw [htext, readAuthority_credentials hinfo (fun c hc => hlocation c (List.mem_cons_of_mem _ hc)) hat hstops
    (encode_ne_nil hpassword), map_masked_withCredentials (encode_ne_nil hpassword),
    takeWhile_cons_append (p := (· != ':')) rfl]

/-- A file has no host with credentials. -/
theorem readFile_credentials {user password rest : List Char} (huser : ∀ c ∈ user, endsAuthority true c = false)
    (hpassword : IsPassword password) : readFile ('/' :: '/' :: (user ++ ':' :: (password ++ '@' :: rest))) =
      .error (if (user ++ [':']).head? = some '[' then .ipv6 else .domainName) := by
  have hname : (user ++ ':' :: (password ++ '@' :: rest)).takeWhile (fun c => !endsAuthority true c) =
      user ++ ':' :: (password ++ '@' :: rest.takeWhile fun c => !endsAuthority true c) := by
    have hfront : ∀ c ∈ user ++ ':' :: (password ++ ['@']), (!endsAuthority true c) = true := by
      simp only [List.forall_mem_append, List.forall_mem_cons, Bool.not_eq_true']
      exact ⟨huser, by decide, fun c hc => endsAuthority_of_isUnreserved (hpassword.unreserved c hc), by decide,
        List.forall_mem_nil _⟩
    have := @List.takeWhile_append_of_pos _ _ _ rest hfront
    simpa using this
  generalize hrest : rest.takeWhile (fun c => !endsAuthority true c) = location at hname
  -- credentials are too long for a drive letter
  have hdrive : isDrive (user ++ ':' :: (password ++ '@' :: location)) = false := by
    have := List.length_pos_of_ne_nil hpassword.ne_nil
    have hlength : (user ++ ':' :: (password ++ '@' :: location)).length ≠ 2 := by
      simp only [List.length_append, List.length_cons]
      omega
    unfold isDrive
    split
    · rename_i hpair
      rw [hpair] at hlength
      exact absurd rfl hlength
    · rfl
  have hhead : (user ++ ':' :: (password ++ '@' :: location)).head? = (user ++ [':']).head? := by
    cases user <;> rfl
  have hempty : (user ++ ':' :: (password ++ '@' :: location)).isEmpty = false := by
    cases user <;> rfl
  have hslash : isSlash true '/' = true := rfl
  unfold readFile splitFileHost
  simp only [hslash, Bool.and_self, if_true, hname, hdrive, hempty, Bool.false_eq_true, if_false]
  rw [readHost_eq_error (by simp), hhead]
  rfl

/-! ## Texts -/

/-- The parts of an address around a password. -/
structure Frame where
  /-- The scheme. -/
  scheme : List Char
  /-- The user. -/
  user : List Char
  /-- The host, with a port or without, or nothing. -/
  location : List Char
  /-- The path, and all that is behind it. -/
  path : List Char
  /-- The scheme has no other characters. -/
  scheme_all : scheme.all isSchemeChar = true
  /-- The user does not end the authority. -/
  user_all : user.any (endsAuthority true) = false

namespace Frame

theorem scheme_chars (f : Frame) : ∀ c ∈ f.scheme, isSchemeChar c = true := List.all_eq_true.1 f.scheme_all

theorem user_chars (f : Frame) : ∀ c ∈ f.user, endsAuthority true c = false := by
  intro c hc
  rw [← Bool.not_eq_true]
  exact List.any_eq_false.1 f.user_all c hc

/-- The text before the password. -/
def before (f : Frame) : List Char := f.scheme ++ ':' :: '/' :: '/' :: (f.user ++ [':'])

/-- The text after the password. -/
def after (f : Frame) : List Char := '@' :: (f.location ++ '/' :: f.path)

/-- The address with a password. -/
def chars (f : Frame) (password : List Char) : List Char := f.before ++ password ++ f.after

/-- The address with a password, as a string. -/
def text (f : Frame) (password : List Char) : String := String.ofList (f.chars password)

end Frame

/-- A kind of characters without blanks and controls. -/
theorem toNat_of_kind {kind : Char → Bool} (h : ∀ n < 33, kind (Char.ofNat n) = false) {c : Char}
    (hc : kind c = true) : 32 < c.toNat := by
  by_contra hle
  have hfalse := h c.toNat (by omega)
  rw [Char.ofNat_toNat, hc] at hfalse
  cases hfalse

theorem toNat_of_isSchemeChar {c : Char} (h : isSchemeChar c = true) : 32 < c.toNat := toNat_of_kind (by decide) h

theorem toNat_of_isUnreserved {c : Char} (h : isUnreserved c = true) : 32 < c.toNat := toNat_of_kind (by decide) h

/-- A text is cleaned in front of its password and behind it. -/
theorem clean_chars (f : Frame) : ∃ user rest, (∀ c ∈ user, endsAuthority true c = false) ∧ ∀ p, IsPassword p →
    clean (f.chars p) = f.scheme ++ ':' :: '/' :: '/' :: (user ++ ':' :: (p ++ '@' :: rest)) := by
  let keeps (c : Char) : Bool := c != '\t' && c != '\n' && c != '\x0d'
  let controls (c : Char) : Bool := c.toNat ≤ 32
  refine ⟨f.user.filter keeps, (((f.location ++ '/' :: f.path).reverse.dropWhile controls).reverse).filter keeps,
    fun c hc => f.user_chars c (List.mem_of_mem_filter hc), fun p hp => ?_⟩
  have hkept : ∀ {cs : List Char}, (∀ c ∈ cs, 32 < c.toNat) → cs.filter keeps = cs := by
    intro cs hcs
    refine List.filter_eq_self.2 fun c hc => ?_
    have hlt := hcs c hc
    by_contra hkeeps
    simp only [keeps, Bool.and_eq_true, bne_iff_ne, not_and_or, not_not] at hkeeps
    rcases hkeeps with (rfl | rfl) | rfl <;> revert hlt <;> decide
  have hscheme : f.scheme.filter keeps = f.scheme := hkept fun c hc => toNat_of_isSchemeChar (f.scheme_chars c hc)
  have hpassword : p.filter keeps = p := hkept fun c hc => toNat_of_isUnreserved (hp.unreserved c hc)
  have hstart : (f.chars p).dropWhile controls = f.chars p := by
    have hhead : ∀ c ∈ (f.chars p).head?, controls c = false := by
      unfold Frame.chars Frame.before
      cases hcs : f.scheme with
      | nil =>
        intro c hc
        cases hc
        rfl
      | cons d ds =>
        intro c hc
        cases hc
        have := toNat_of_isSchemeChar (f.scheme_chars d (hcs ▸ List.mem_cons_self))
        simpa [controls] using this
    exact @dropWhile_append_stop _ _ [] _ (List.forall_mem_nil _) hhead
  have hend : ((f.chars p).reverse.dropWhile controls).reverse =
      f.before ++ p ++ '@' :: ((f.location ++ '/' :: f.path).reverse.dropWhile controls).reverse := by
    have hreverse : (f.chars p).reverse = (f.location ++ '/' :: f.path).reverse ++ '@' :: (f.before ++ p).reverse := by
      simp [Frame.chars, Frame.after]
    rw [hreverse, dropWhile_cons_append (p := controls) rfl]
    simp
  unfold clean
  dsimp only
  rw [show (fun c : Char => decide (c.toNat ≤ 32)) = controls from rfl, hstart, hend]
  show (_ : List Char).filter keeps = _
  simp only [Frame.before, List.filter_append, List.filter_cons, hscheme, hpassword]
  simp [keeps]

theorem readScheme?_append {scheme rest : List Char} (h : ∀ c ∈ scheme, isSchemeChar c = true) :
    readScheme? (scheme ++ ':' :: rest) =
      if scheme.head?.any Char.isAlpha then some (scheme.map Char.toLower, rest) else none := by
  have hcolon : ∀ c ∈ (':' :: rest).head?, isSchemeChar c = false := by simp [isSchemeChar]
  unfold readScheme?
  rw [takeWhile_append_stop h hcolon, dropWhile_append_stop h hcolon]
  cases scheme with
  | nil => rfl
  | cons c cs => rfl

/-- **What is read does not depend on the password but for the password itself.** -/
theorem readChars_masked (f : Frame) : ∃ r, ∀ p, IsPassword p → (readChars (f.chars p)).map masked = r := by
  obtain ⟨user, rest, huser, hclean⟩ := clean_chars f
  have hread : ∀ p, IsPassword p → readScheme? (clean (f.chars p)) = if f.scheme.head?.any Char.isAlpha then
      some (f.scheme.map Char.toLower, '/' :: '/' :: (user ++ ':' :: (p ++ '@' :: rest))) else none := fun p hp => by
    rw [hclean p hp, readScheme?_append f.scheme_chars]
  generalize f.scheme.map Char.toLower = scheme at hread
  by_cases hscheme : f.scheme.head?.any Char.isAlpha = true
  · by_cases hfile : scheme = "file".toList
    · refine ⟨.error (if (user ++ [':']).head? = some '[' then .ipv6 else .domainName), fun p hp => ?_⟩
      unfold readChars
      rw [hread p hp, if_pos hscheme]
      dsimp only
      rw [if_pos hfile, readFile_credentials huser hp]
      rfl
    · by_cases hspecial : (defaultPort? scheme).isSome = true
      · obtain ⟨r, hr⟩ := readAuthority_masked scheme rest true huser
        refine ⟨r, fun p hp => ?_⟩
        have hslashes : ('/' :: '/' :: (user ++ ':' :: (p ++ '@' :: rest))).dropWhile (isSlash true) =
            user ++ ':' :: (p ++ '@' :: rest) := by
          refine @dropWhile_append_stop _ _ ['/', '/'] _ (by simp [isSlash]) fun c hc => ?_
          cases user with
          | nil =>
            cases hc
            rfl
          | cons d ds =>
            cases hc
            have := huser c List.mem_cons_self
            simp only [endsAuthority, Bool.or_eq_false_iff] at this
            exact this.1.1
        unfold readChars
        rw [hread p hp, if_pos hscheme]
        dsimp only
        rw [if_neg hfile, if_pos hspecial, hslashes, hr p hp]
      · obtain ⟨r, hr⟩ := readAuthority_masked scheme rest false huser
        refine ⟨r, fun p hp => ?_⟩
        unfold readChars
        rw [hread p hp, if_pos hscheme]
        dsimp only
        rw [if_neg hfile, if_neg hspecial]
        exact hr p hp
  · refine ⟨.error .relative, fun p hp => ?_⟩
    unfold readChars
    rw [hread p hp, if_neg hscheme]
    rfl

end Cohort.Url
