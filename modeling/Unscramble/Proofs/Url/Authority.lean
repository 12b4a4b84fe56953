import Unscramble.Proofs.Url.Host

/-!
# An authority is read again

A written authority is cut at the last `@`, before the first colon that is not in brackets, and
behind that colon. None of its parts holds what would cut it elsewhere: login and host are written
without `@`, a host has colons only in brackets, and a port is digits. So the parts come apart as
they were put together. The usual port of a scheme is not among them, as it is not kept.

## Main definitions

* `Authority.IsRead`: an authority under a scheme of the web.

## Main statements

* `isRead_of_readAuthority`: what is read.
* `Authority.IsRead.readAuthority_text`: an authority is read again from its written form.
* `Authority.IsRead.isEscaped_text`: the characters that it is written with.
-/

namespace Unscramble.Url

open Unscramble.Text

/-! ### Cutting -/

section Cutting

variable {c : Char} {s : List Char}

theorem cutAt_append_optional (h : c ∉ s) (part : Option (List Char)) :
    cutAt c (s ++ optional c part) = (s, part) := by
  cases part with
  | none => rw [optional, List.append_nil, cutAt, splitFirst?_of_notMem h]
  | some part => rw [optional, cutAt, splitFirst?_append_cons h]

theorem splitLast?_of_notMem (h : c ∉ s) : splitLast? c s = none := by
  rw [splitLast?, splitFirst?_of_notMem (by simpa using h)]
  rfl

/-- A text is cut at the last occurrence of a separator. -/
theorem splitLast?_append_cons (h : c ∉ s) (before : List Char) :
    splitLast? c (before ++ c :: s) = some (before, s) := by
  have hreverse : (before ++ c :: s).reverse = s.reverse ++ c :: before.reverse := by simp
  rw [splitLast?, hreverse, splitFirst?_append_cons (by simpa using h)]
  simp

/-- Characters that are no brackets, and no colons outside of brackets, belong to the host. -/
theorem cutHost_append {inside : Bool} {s : List Char}
    (h : ∀ c ∈ s, c ≠ '[' ∧ c ≠ ']' ∧ (c = ':' → inside = true)) (r : List Char) :
    cutHost inside (s ++ r) = (s ++ (cutHost inside r).1, (cutHost inside r).2) := by
  induction s with
  | nil => rfl
  | cons c s ih =>
    rw [List.forall_mem_cons] at h
    obtain ⟨⟨hopen, hclose, hcolon⟩, h⟩ := h
    have hgoes : ¬ (c = ':' ∧ (!inside) = true) := by
      rintro ⟨rfl, hinside⟩
      rw [hcolon rfl] at hinside
      cases hinside
    rw [List.cons_append, cutHost, if_neg hgoes, if_neg hopen, if_neg hclose, ih h]
    rfl

theorem cutHost_optional (part : Option (List Char)) :
    cutHost false (optional ':' part) = ([], optional ':' part) := by
  cases part with
  | none => rfl
  | some part => rw [optional, cutHost, if_pos ⟨rfl, rfl⟩]

end Cutting

/-! ### Ports -/

/-- The port behind a host, if a colon leads to one. -/
def readPortText (scheme : List Char) : List Char → Except Fault (Option UInt16 × List Char)
  | [] => .ok (none, [])
  | _ :: digits => readPort scheme digits

/-- A port that is kept is not the usual one. -/
theorem usualPort?_ne_of_readPortText {scheme s rest : List Char} {port : UInt16}
    (h : readPortText scheme s = .ok (some port, rest)) :
    usualPort? scheme ≠ some port.toNat := by
  cases s with
  | nil => cases Except.ok.inj h
  | cons c digits =>
    rw [readPortText, readPort] at h
    split at h
    · cases h
    · next hrange =>
      split at h
      · cases Except.ok.inj h
      · next husual =>
        simp only [Bool.or_eq_true, decide_eq_true_iff, not_or, Nat.not_lt] at hrange husual
        obtain ⟨hport, -⟩ := Prod.mk.inj (Except.ok.inj h)
        rw [← Option.some.inj hport, Nat.toUInt16,
          UInt16.toNat_ofNat_of_lt' (Nat.lt_succ_of_le hrange.2)]
        exact husual.2

/-- **A port is read back**, if it is not the usual one. -/
theorem readPort_toDigits {scheme : List Char} {port : UInt16}
    (h : usualPort? scheme ≠ some port.toNat) :
    readPort scheme (Nat.toDigits 10 port.toNat) = .ok (some port, []) := by
  have hdigits : ∀ c ∈ Nat.toDigits 10 port.toNat, c.isDigit = true := fun c hc ↦
    Nat.isDigit_of_mem_toDigits (by decide) (by decide) hc
  have htake : (Nat.toDigits 10 port.toNat).takeWhile Char.isDigit =
      Nat.toDigits 10 port.toNat := by
    simpa using hdigits
  have hdrop : (Nat.toDigits 10 port.toNat).dropWhile Char.isDigit = [] :=
    List.dropWhile_eq_nil_iff.2 hdigits
  have hne : (Nat.toDigits 10 port.toNat).isEmpty = false := by
    rw [List.isEmpty_eq_false_iff]
    exact Nat.toDigits_ne_nil
  have hlt : ¬ 65535 < port.toNat := by
    have := port.toNat_lt
    omega
  rw [readPort, htake, hdrop, Nat.ofDigitChars_ten_toDigits, hne, if_neg (by simpa using hlt),
    if_neg (by simpa using h), Nat.toUInt16, UInt16.ofNat_toNat]

theorem readPortText_optional {scheme : List Char} {port : Option UInt16}
    (h : ∀ p ∈ port, usualPort? scheme ≠ some p.toNat) :
    readPortText scheme (optional ':' (port.map fun p ↦ Nat.toDigits 10 p.toNat)) =
      .ok (port, []) := by
  cases port with
  | none => rfl
  | some port => exact readPort_toDigits (h port rfl)

/-! ### Logins -/

/-- The user name and the password that are read are escaped. -/
theorem isEscaped_of_splitLogin {closed : Bool} {s place : List Char}
    {login : List Char × List Char} (h : splitLogin closed s = .ok (login, place)) :
    Escape.IsEscaped Escape.inLogin login.1 ∧ Escape.IsEscaped Escape.inLogin login.2 := by
  have hempty := Escape.isEscaped_nil Escape.inLogin
  rw [splitLogin] at h
  split at h
  · obtain ⟨rfl, -⟩ := Prod.mk.inj (Except.ok.inj h)
    exact ⟨hempty, hempty⟩
  · split at h
    · cases h
    · obtain ⟨rfl, -⟩ := Prod.mk.inj (Except.ok.inj h)
      exact ⟨hempty, hempty⟩
  · obtain ⟨rfl, -⟩ := Prod.mk.inj (Except.ok.inj h)
    exact ⟨Escape.isEscaped_escape (by decide) _, Escape.isEscaped_escape (by decide) _⟩

section Login

variable {username password place : List Char}

theorem loginText_eq (username password : List Char) :
    loginText username password = if username = [] ∧ password = [] then [] else
      username ++ optional ':' (if password = [] then none else some password) ++ ['@'] := by
  rw [loginText]
  cases username <;> cases password <;> rfl

/-- An escaped login is read back from what stands in front of its `@`. -/
theorem readLogin_append_optional (husername : Escape.IsEscaped Escape.inLogin username)
    (hpassword : Escape.IsEscaped Escape.inLogin password) :
    readLogin (username ++ optional ':' (if password = [] then none else some password)) =
      (username, password) := by
  have hget : (if password = [] then none else some password).getD [] = password := by
    split
    · next h => rw [h, Option.getD_none]
    · rfl
  rw [readLogin, cutAt_append_optional (husername.notMem (by decide))]
  dsimp only
  rw [hget, Escape.escape_of_isEscaped husername, Escape.escape_of_isEscaped hpassword]

theorem splitLogin_of_splitLast? {s login r : List Char} {c : Char} (closed : Bool)
    (h : splitLast? '@' s = some (login, c :: r)) :
    splitLogin closed s = .ok (readLogin login, c :: r) := by
  rw [splitLogin, h]
  cases login <;> rfl

/-- **A login is read back**, in front of anything without an `@`. -/
theorem splitLogin_loginText_append (closed : Bool)
    (husername : Escape.IsEscaped Escape.inLogin username)
    (hpassword : Escape.IsEscaped Escape.inLogin password) (hne : place ≠ [])
    (hat : '@' ∉ place) :
    splitLogin closed (loginText username password ++ place) =
      .ok ((username, password), place) := by
  rw [loginText_eq]
  by_cases hempty : username = [] ∧ password = []
  · rw [if_pos hempty, hempty.1, hempty.2, List.nil_append, splitLogin,
      splitLast?_of_notMem hat]
  · obtain ⟨c, r, rfl⟩ := List.exists_cons_of_ne_nil hne
    rw [if_neg hempty, List.append_assoc, List.singleton_append,
      splitLogin_of_splitLast? closed (splitLast?_append_cons hat _),
      readLogin_append_optional husername hpassword]

/-- The characters of a written login. -/
theorem isEscaped_loginText (husername : Escape.IsEscaped Escape.inLogin username)
    (hpassword : Escape.IsEscaped Escape.inLogin password) :
    Escape.IsEscaped delimiters (loginText username password) := by
  have hcolon : Escape.IsEscaped delimiters
      (optional ':' (if password = [] then none else some password)) := by
    split
    · exact Escape.isEscaped_nil _
    · exact List.forall_mem_cons.2 ⟨by decide, hpassword.mono (by decide)⟩
  rw [loginText_eq]
  split
  · exact Escape.isEscaped_nil _
  · exact ((husername.mono (by decide)).append hcolon).append (by decide)

end Login

/-! ### Hosts and what follows them -/

/-- **A host is cut off** from its port. -/
theorem Host.IsRead.cutHost_append_optional {h : Host} (hread : h.IsRead)
    (part : Option (List Char)) :
    cutHost false (h.text ++ optional ':' part) = (h.text, optional ':' part) := by
  by_cases hsix : ∃ a, h = six a
  · obtain ⟨a, rfl⟩ := hsix
    have haddress : ∀ c ∈ a.text, c ≠ '[' ∧ c ≠ ']' ∧ (c = ':' → true = true) := fun c hc ↦
      ⟨Escape.ne_of_isPlainChar (Ipv6.isEscaped_text a c hc) (by decide),
        Escape.ne_of_isPlainChar (Ipv6.isEscaped_text a c hc) (by decide), fun _ ↦ rfl⟩
    have hclosed : cutHost true (']' :: optional ':' part) = ([']'], optional ':' part) := by
      rw [cutHost, if_neg (by decide), if_neg (by decide), if_pos rfl, cutHost_optional]
    rw [text, List.append_assoc, List.singleton_append, List.cons_append,
      cutHost, if_neg (by decide), if_pos rfl, cutHost_append haddress, hclosed]
    rfl
  · have hfolded := (hread.isFolded fun a ha ↦ hsix ⟨a, ha⟩).isEscaped
    have hname : ∀ c ∈ h.text, c ≠ '[' ∧ c ≠ ']' ∧ (c = ':' → false = true) := fun c hc ↦
      ⟨Escape.ne_of_isPlainChar (hfolded c hc) (by decide),
        Escape.ne_of_isPlainChar (hfolded c hc) (by decide),
        fun hcolon ↦ absurd hcolon (Escape.ne_of_isPlainChar (hfolded c hc) (by decide))⟩
    rw [cutHost_append hname, cutHost_optional, List.append_nil]

/-! ### Authorities -/

/-- An authority that is read under a scheme of the web. -/
structure Authority.IsRead (scheme : List Char) (a : Authority) : Prop where
  username : Escape.IsEscaped Escape.inLogin a.username
  password : Escape.IsEscaped Escape.inLogin a.password
  host : a.host.IsRead
  port : ∀ port ∈ a.port, usualPort? scheme ≠ some port.toNat

variable {scheme : List Char} {a : Authority}

/-- An authority is read in three stages. -/
theorem readAuthority_eq (layout : Layout) (scheme : List Char) (closed : Bool) (s : List Char) :
    readAuthority layout scheme closed s =
      (splitLogin closed s).bind fun (login, place) ↦
        if layout = .web ∧ (cutHost false place).1 = [] then .error .emptyHost
        else (if layout = .free then Host.ofText (cutHost false place).1
            else Host.ofDomain (cutHost false place).1).bind fun host ↦
          if host = .unnamed ∧ !(cutHost false place).2.isEmpty then .error .emptyHost
          else (readPortText scheme (cutHost false place).2).bind fun (port, rest) ↦
            if host = .unnamed ∧ !(login.1.isEmpty && login.2.isEmpty) then .error .emptyHost
            else .ok (⟨login.1, login.2, host, port⟩, rest) := by
  rw [readAuthority]
  rcases splitLogin closed s with fault | ⟨⟨username, password⟩, place⟩
  · rfl
  simp only [bind, Except.bind]
  generalize cutHost false place = cut
  obtain ⟨hostText, portText⟩ := cut
  dsimp only
  by_cases hweb : layout = .web ∧ hostText = []
  · rw [if_pos hweb, if_pos hweb]
    rfl
  rw [if_neg hweb, if_neg hweb]
  by_cases hfree : layout = .free
  · rw [if_pos hfree, if_pos hfree]
    cases Host.ofText hostText with
    | error fault => rfl
    | ok host =>
      rcases portText with - | ⟨c, digits⟩
      · rfl
      · cases readPort scheme digits <;> rfl
  · rw [if_neg hfree, if_neg hfree]
    cases Host.ofDomain hostText with
    | error fault => rfl
    | ok host =>
      rcases portText with - | ⟨c, digits⟩
      · rfl
      · cases readPort scheme digits <;> rfl

/-- Under a scheme of the web there is a host, so nothing else can be missing. -/
theorem readAuthority_web (scheme : List Char) (closed : Bool) (s : List Char) :
    readAuthority .web scheme closed s =
      (splitLogin closed s).bind fun (login, place) ↦
        if (cutHost false place).1 = [] then .error .emptyHost
        else (Host.ofDomain (cutHost false place).1).bind fun host ↦
          (readPortText scheme (cutHost false place).2).map fun (port, rest) ↦
            (⟨login.1, login.2, host, port⟩, rest) := by
  rw [readAuthority_eq]
  rcases splitLogin closed s with fault | ⟨login, place⟩
  · rfl
  show (if Layout.web = .web ∧ (cutHost false place).1 = [] then _ else _) = if _ then _ else _
  by_cases hne : (cutHost false place).1 = []
  · rw [if_pos ⟨rfl, hne⟩, if_pos hne]
  · rw [if_neg fun h ↦ hne h.2, if_neg hne, if_neg (by decide)]
    cases hhost : Host.ofDomain (cutHost false place).1 with
    | error fault => rfl
    | ok host =>
      have hnamed : host ≠ .unnamed := by
        rintro rfl
        exact Host.isRead_of_ofDomain hhost
      show (if host = .unnamed ∧ _ then _ else _) = _
      rw [if_neg fun h ↦ hnamed h.1]
      cases readPortText scheme (cutHost false place).2 with
      | error fault => rfl
      | ok read => exact if_neg fun h ↦ hnamed h.1

/-- An authority that names nothing but a host. -/
theorem readAuthority_of_host {s : List Char} (hne : s ≠ [])
    (h : ∀ c ∈ s, c ≠ ':' ∧ c ≠ '@' ∧ c ≠ '[' ∧ c ≠ ']') (closed : Bool) :
    readAuthority .web scheme closed s =
      (Host.ofDomain s).map fun host ↦ (⟨[], [], host, none⟩, []) := by
  have hat : '@' ∉ s := fun hm ↦ (h '@' hm).2.1 rfl
  have hhost : cutHost false s = (s, []) := by
    have hchars : ∀ c ∈ s, c ≠ '[' ∧ c ≠ ']' ∧ (c = ':' → false = true) := fun c hc ↦
      ⟨(h c hc).2.2.1, (h c hc).2.2.2, fun hcolon ↦ absurd hcolon (h c hc).1⟩
    have := cutHost_append hchars []
    rwa [cutHost, List.append_nil] at this
  rw [readAuthority_web, splitLogin, splitLast?_of_notMem hat, Except.bind]
  dsimp only
  rw [hhost]
  dsimp only
  rw [if_neg hne]
  cases Host.ofDomain s <;> rfl

/-- **What is read** under a scheme of the web. -/
theorem isRead_of_readAuthority {closed : Bool} {s rest : List Char}
    (h : readAuthority .web scheme closed s = .ok (a, rest)) : a.IsRead scheme := by
  rw [readAuthority_web] at h
  obtain ⟨⟨login, place⟩, hlogin, h⟩ := exists_of_bind_eq_ok h
  dsimp only at h
  split at h
  · cases h
  obtain ⟨host, hhost, h⟩ := exists_of_bind_eq_ok h
  cases hport : readPortText scheme (cutHost false place).2 with
  | error fault =>
    rw [hport] at h
    cases h
  | ok read =>
    obtain ⟨port, behind⟩ := read
    rw [hport] at h
    obtain ⟨rfl, -⟩ := Prod.mk.inj (Except.ok.inj h)
    obtain ⟨husername, hpassword⟩ := isEscaped_of_splitLogin hlogin
    refine ⟨husername, hpassword, Host.isRead_of_ofDomain hhost, ?_⟩
    rintro p rfl
    exact usualPort?_ne_of_readPortText hport

namespace Authority

theorem text_eq (a : Authority) :
    a.text = loginText a.username a.password ++
      (a.host.text ++ optional ':' (a.port.map fun p ↦ Nat.toDigits 10 p.toNat)) := by
  rw [text, List.append_assoc]
  cases a.port with
  | none => rfl
  | some port =>
    have hdigits : (toString port.toNat).toList = Nat.toDigits 10 port.toNat := Nat.toList_repr
    rw [Option.map_some, optional, ← hdigits]

/-- The characters of a written port, with what leads to it. -/
theorem isEscaped_portText (port : Option UInt16) :
    Escape.IsEscaped (delimiters ++ ['@'])
      (optional ':' (port.map fun p ↦ Nat.toDigits 10 p.toNat)) := by
  cases port with
  | none => exact Escape.isEscaped_nil _
  | some port =>
    refine List.forall_mem_cons.2 ⟨by decide, fun c hc ↦ ?_⟩
    have hdigit : c.isDigit = true := Nat.isDigit_of_mem_toDigits (by decide) (by decide) hc
    obtain ⟨hascii, hfold⟩ := Domain.fold?_of_isDecimal (.inl hdigit)
    exact Escape.isPlainChar_mono (by decide) (Domain.isPlainChar_of_fold? hascii hfold)

/-- **The characters of a written authority** do not end it. -/
theorem IsRead.isEscaped_text (h : a.IsRead scheme) : Escape.IsEscaped delimiters a.text := by
  rw [text_eq]
  refine (isEscaped_loginText h.username h.password).append ?_
  exact (h.host.isEscaped_text.append (isEscaped_portText a.port)).mono (by decide)

theorem IsRead.text_ne_nil (h : a.IsRead scheme) : a.text ≠ [] := by
  rw [text_eq]
  exact List.append_ne_nil_of_right_ne_nil _
    (List.append_ne_nil_of_left_ne_nil h.host.text_ne_nil _)

/-- **An authority is read again as itself**, exactly if its host is legible. -/
theorem IsRead.readAuthority_text (h : a.IsRead scheme) (closed : Bool) :
    readAuthority .web scheme closed a.text =
      if a.host.isLegible then .ok (a, []) else .error .domain := by
  have hplace : a.host.text ++ optional ':' (a.port.map fun p ↦ Nat.toDigits 10 p.toNat) ≠ [] :=
    List.append_ne_nil_of_left_ne_nil h.host.text_ne_nil _
  have hat : '@' ∉ a.host.text ++
      optional ':' (a.port.map fun p ↦ Nat.toDigits 10 p.toNat) :=
    (h.host.isEscaped_text.append (isEscaped_portText a.port)).notMem (by decide)
  rw [readAuthority_web, text_eq,
    splitLogin_loginText_append closed h.username h.password hplace hat, Except.bind]
  dsimp only
  rw [h.host.cutHost_append_optional]
  dsimp only
  rw [if_neg h.host.text_ne_nil, h.host.ofDomain_text, readPortText_optional h.port]
  cases a.host.isLegible <;> rfl

end Authority

end Unscramble.Url
