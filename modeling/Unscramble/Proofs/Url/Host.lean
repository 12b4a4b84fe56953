import Unscramble.Proofs.Url.Address
import Unscramble.Proofs.Url.Domain.Labels
import Unscramble.Proofs.Url.Escape
import Unscramble.Url.Reader

/-!
# A host is read again

A host that has been read is a name that looks like no address, or an address, and it is written so
that no other part of a URL is taken for it. Addresses are always read again as themselves. A name
is if it is legible; otherwise it is refused as a domain name.

## Main definitions

* `Host.IsRead`: a host under a scheme that uses domain names.
* `Host.isLegible`: a host that is read again.

## Main statements

* `Host.isRead_of_ofDomain`: what is read.
* `Host.IsRead.ofDomain_text`: a host is read again from its written form.
* `Host.IsRead.isEscaped_text`: the characters that it is written with.
-/

namespace Unscramble.Url

open Unscramble.Text

/-- The characters that end an authority, or are passed over. -/
def delimiters : List Char := [' ', '#', '/', '?', '\\']

namespace Domain

/-- Each ASCII character that stands for itself is printable, and delimits nothing. -/
theorem isPlainChar_of_fold? {c : Char} (hascii : c.toNat < 0x80) (h : fold? c = some [c]) :
    Escape.isPlainChar (delimiters ++ ['%', ':', '@', '[', ']']) c = true := by
  have hall : ∀ n < 0x80, fold? (Char.ofNat n) = some [Char.ofNat n] →
      Escape.isPlainChar (delimiters ++ ['%', ':', '@', '[', ']']) (Char.ofNat n) = true := by
    decide +kernel
  exact forall_ascii (P := fun c ↦ fold? c = some [c] →
    Escape.isPlainChar (delimiters ++ ['%', ':', '@', '[', ']']) c = true) hall hascii h

/-- The characters of a written name. -/
theorem IsFolded.isEscaped {s : List Char} (h : IsFolded s) :
    Escape.IsEscaped (delimiters ++ ['%', ':', '@', '[', ']']) s :=
  fun c hc ↦ isPlainChar_of_fold? (h c hc).1 (h c hc).2

/-- Decimal digits and full stops stand for themselves. -/
theorem fold?_of_isDecimal {c : Char} (h : c.isDigit = true ∨ c = '.') :
    c.toNat < 0x80 ∧ fold? c = some [c] := by
  have hall : ∀ n < 0x80, ((Char.ofNat n).isDigit = true ∨ Char.ofNat n = '.') →
      fold? (Char.ofNat n) = some [Char.ofNat n] := by
    decide +kernel
  have hascii : c.toNat < 0x80 := by
    rcases h with h | rfl
    · rw [Char.isDigit, Bool.and_eq_true, decide_eq_true_iff, decide_eq_true_iff] at h
      exact lt_of_le_of_lt h.2 (by decide)
    · decide
  exact ⟨hascii, forall_ascii (P := fun c ↦ (c.isDigit = true ∨ c = '.') →
    fold? c = some [c]) hall hascii h⟩

end Domain

namespace Ipv4

/-- The characters of an address stand for themselves in a domain name. -/
theorem isFolded_text (a : Ipv4) : Domain.IsFolded a.text :=
  fun _ hc ↦ Domain.fold?_of_isDecimal (isDigit_or_of_mem_text hc)

theorem text_ne_nil (a : Ipv4) : a.text ≠ [] := by
  intro h
  have := looksLike_text a
  rw [h] at this
  revert this
  decide

/-- An address in four decimal bytes is a domain name that is written so. -/
theorem domain_read?_text (a : Ipv4) : Domain.read? a.text = some a.text := by
  have hfolded := isFolded_text a
  rw [Domain.read?_of_notMem hfolded.notMem]
  refine Domain.ofText?_of_forall hfolded fun part hpart ↦ ?_
  -- no part begins with a letter
  cases part with
  | nil => rfl
  | cons c part =>
    have hc := isDigit_or_of_mem_text (of_mem_pieces hpart List.mem_cons_self).1
    have hne : ¬ 'x' = c := by
      rintro rfl
      revert hc
      decide
    rw [Domain.mark, strip?, if_neg hne]

end Ipv4

namespace Ipv6

/-- The characters of a written address. -/
theorem isEscaped_text (a : Ipv6) :
    Escape.IsEscaped (delimiters ++ ['@', '[', ']']) a.text := by
  have hall : ∀ n < 0x80, (isGroupChar (Char.ofNat n) = true ∨ Char.ofNat n = ':') →
      Escape.isPlainChar (delimiters ++ ['@', '[', ']']) (Char.ofNat n) = true := by
    decide +kernel
  intro c hc
  have hgroup := mem_text hc
  have hascii : c.toNat < 0x80 := by
    rcases hgroup with h | rfl
    · simp only [isGroupChar, Char.isDigit, Bool.or_eq_true, Bool.and_eq_true,
        decide_eq_true_iff] at h
      rcases h with h | h
      · exact lt_of_le_of_lt h.2 (by decide)
      · exact lt_of_le_of_lt h.2 (by decide)
    · decide
  exact forall_ascii (P := fun c ↦ (isGroupChar c = true ∨ c = ':') →
    Escape.isPlainChar (delimiters ++ ['@', '[', ']']) c = true) hall hascii hgroup

end Ipv6

namespace Host

/-- A host that is read under a scheme that uses domain names. -/
def IsRead : Host → Prop
  | unnamed => False
  | name text => text ≠ [] ∧ Ipv4.looksLike text = false ∧ ∃ s, Domain.read? s = some text
  | four _ | six _ => True

/-- Whether a host is read again: all are but the names with a label that is too long. -/
def isLegible : Host → Bool
  | name text => Domain.isLegible text
  | unnamed | four _ | six _ => true

/-! ### Reading -/

/-- An address in brackets is one of eight pieces. -/
theorem exists_six_of_bracketed? {s : List Char} {h : Host} (hs : bracketed? s = some (.ok h)) :
    ∃ a, h = six a := by
  unfold bracketed? at hs
  split at hs
  · rw [Option.some.injEq] at hs
    split at hs
    · split at hs
      · exact ⟨_, (Except.ok.inj hs).symm⟩
      · cases hs
    · cases hs
  · cases hs

/-- **What is read** under a scheme that uses domain names. -/
theorem isRead_of_ofDomain {s : List Char} {h : Host} (hs : ofDomain s = .ok h) : h.IsRead := by
  rw [ofDomain] at hs
  split at hs
  · next hbracket =>
    rw [hs] at hbracket
    obtain ⟨a, rfl⟩ := exists_six_of_bracketed? hbracket
    trivial
  · split at hs
    · cases hs
    · cases hs
    · next domain hne hread =>
      split at hs
      · split at hs
        · obtain rfl := Except.ok.inj hs
          trivial
        · cases hs
      · next hlooks =>
        obtain rfl := Except.ok.inj hs
        exact ⟨hne, Bool.eq_false_iff.2 hlooks, s, hread⟩

/-! ### The written form -/

section Written

variable {h : Host}

theorem bracketed?_of_notMem {s : List Char} (hs : '[' ∉ s) : bracketed? s = none := by
  unfold bracketed?
  split
  · exact absurd List.mem_cons_self hs
  · rfl

theorem IsRead.text_ne_nil (hread : h.IsRead) : h.text ≠ [] := by
  cases h with
  | unnamed => exact hread.elim
  | name t => exact hread.1
  | four a => exact Ipv4.text_ne_nil a
  | six a => exact List.cons_ne_nil _ _

/-- A host that has no brackets is a name or an address that the reader of names passes on. -/
theorem IsRead.isFolded (hread : h.IsRead) (hsix : ∀ a, h ≠ six a) :
    Domain.IsFolded h.text := by
  cases h with
  | unnamed => exact hread.elim
  | name t =>
    obtain ⟨-, -, s, hs⟩ := hread
    exact Domain.isFolded_of_read? hs
  | four a => exact Ipv4.isFolded_text a
  | six a => exact absurd rfl (hsix a)

/-- **The characters of a written host** end no authority and no login. -/
theorem IsRead.isEscaped_text (hread : h.IsRead) :
    Escape.IsEscaped (delimiters ++ ['@']) h.text := by
  by_cases hsix : ∃ a, h = six a
  · obtain ⟨a, rfl⟩ := hsix
    rw [text]
    refine Escape.IsEscaped.append (s := '[' :: a.text) ?_ (by decide)
    exact List.forall_mem_cons.2 ⟨by decide, (Ipv6.isEscaped_text a).mono (by decide)⟩
  · exact (hread.isFolded fun a ha ↦ hsix ⟨a, ha⟩).isEscaped.mono (by decide)

/-- **A host is read again as itself**, exactly if it is legible. -/
theorem IsRead.ofDomain_text (hread : h.IsRead) :
    ofDomain h.text = if h.isLegible then .ok h else .error .domain := by
  cases h with
  | unnamed => exact hread.elim
  | name t =>
    obtain ⟨hne, hlooks, s, hs⟩ := hread
    have hbracket : bracketed? t = none :=
      bracketed?_of_notMem ((Domain.isFolded_of_read? hs).isEscaped.notMem (by decide))
    rw [ofDomain, text, hbracket, Domain.read?_of_read? hs, isLegible]
    cases hlegible : Domain.isLegible t with
    | false => rfl
    | true =>
      obtain ⟨c, r, rfl⟩ := List.exists_cons_of_ne_nil hne
      dsimp only
      rw [if_pos rfl]
      dsimp only
      rw [hlooks]
      rfl
  | four a =>
    have hbracket : bracketed? a.text = none :=
      bracketed?_of_notMem ((Ipv4.isFolded_text a).isEscaped.notMem (by decide))
    obtain ⟨c, r, htext⟩ := List.exists_cons_of_ne_nil (Ipv4.text_ne_nil a)
    have hlooks := Ipv4.looksLike_text a
    have hread := Ipv4.read?_text a
    rw [ofDomain, text, hbracket, Ipv4.domain_read?_text, isLegible]
    rw [htext] at hlooks hread ⊢
    dsimp only
    rw [hlooks, if_pos rfl, hread]
    rfl
  | six a =>
    have hbracket : bracketed? ('[' :: a.text ++ [']']) = some (.ok (six a)) := by
      rw [List.cons_append, bracketed?, List.getLast?_concat, if_pos rfl, List.dropLast_concat,
        Ipv6.read?_text]
    rw [ofDomain, text, hbracket]
    rfl

end Written

end Host

end Unscramble.Url
