import Unscramble.Proofs.Media.Cipher
import Unscramble.Proofs.Url.Domain.Ideographs
import Unscramble.Proofs.Url.Reader

/-!
# A pair is added to an address

A signed address carries the unscrambled token in the last pair of its query, whatever characters
the token has, and is the address of the cipher otherwise. It can be read again exactly if its host
is legible, so a token is lost behind a host that the reader of addresses writes but does not read.

## Main statements

* `appendPair_keeps`: adding a pair to an address, and signing a cipher with it.
* `not_read_appendPair_farApart`: an address that is refused once a pair has been added.
-/

namespace Unscramble.Media

open Unscramble.Text

/-- **A pair is added and everything else is kept**: the other parts of the address, and the pairs
before it. The address with the pair is read as just that, unless its host has a label that is too
long to be read from Punycode. A cipher that is signed with the pair gives this address. -/
theorem appendPair_keeps {s : List Char} {u : Url} (hread : Url.read s = .ok u)
    (hscheme : u.scheme = "http".toList ∨ u.scheme = "https".toList) (key value : List Char) :
    ∃ v : Url, appendPair s key value = .ok v.text ∧
      v.pairs = u.pairs ++ [(key, value)] ∧
      v.scheme = u.scheme ∧ v.authority = u.authority ∧ v.path = u.path ∧
      v.fragment = u.fragment ∧
      Url.read v.text = (if u.isLegible then .ok v else .error .domain) ∧
      ∀ (token : List Char) (d : Unscrambler), (d.run token).2 = .ok value →
        (Cipher.sign ⟨token, key, s⟩ d).outcome = .ok v.text ∧
          v.pairs.getLast? = some (key, value) := by
  have hpairs := Url.pairs_append u (key, value)
  refine ⟨u.append (key, value), ?_, hpairs, rfl, rfl, rfl, rfl, ?_, fun token d hrun ↦ ⟨?_, ?_⟩⟩
  · rw [appendPair, hread]
  · exact Url.read_text_append hread hscheme _
  · exact Cipher.outcome_sign_of_ok hrun hread
  · rw [hpairs, List.getLast?_concat]

/-- A pair behind another one, with a fragment behind both, and a token that is reversed. -/
theorem appendPair_keeps_reversed :
    ∃ v : Url, appendPair "http://a/b?x=1#f".toList ['n'] "&=".toList = .ok v.text ∧
      v.pairs = [(['x'], ['1']), (['n'], "&=".toList)] ∧ Url.read v.text = .ok v ∧
      (Cipher.sign ⟨"=&".toList, ['n'], "http://a/b?x=1#f".toList⟩
        ⟨⟨[⟨"r", 0⟩], List.cons_ne_nil _ _⟩, HelperTable.empty.insert "r" .reverse⟩).outcome =
          .ok v.text := by
  have hread : Url.read "http://a/b?x=1#f".toList = .ok ⟨"http".toList,
      some ⟨[], [], .name ['a'], none⟩, .divided [['b']], some "x=1".toList, some ['f']⟩ := by
    decide +kernel
  obtain ⟨v, happend, hpairs, -, -, -, -, hagain, hsign⟩ :=
    appendPair_keeps hread (.inl rfl) ['n'] "&=".toList
  exact ⟨v, happend, hpairs, hagain, (hsign _ _ rfl).1⟩

/-- The text of an address whose host is a name of ideographs that lie far apart. -/
def farApartText : List Char :=
  "http".toList ++ ':' :: '/' :: '/' :: Url.Domain.farApart

/-- The address itself. -/
def farApartAddress : Url :=
  ⟨"http".toList, some ⟨[], [], .name (Url.Domain.mark ++ Punycode.encode Url.Domain.farApart),
    none⟩, .divided [[]], none, none⟩

theorem read_farApartText : Url.read farApartText = .ok farApartAddress := by
  have hideographs : ∀ c ∈ Url.Domain.farApart, Url.Domain.IsIdeograph c := fun c hc ↦
    Url.Domain.isIdeograph_of_mem_farApart hc
  have hlength := Url.Domain.length_farApart
  have hne : Url.Domain.farApart ≠ [] := List.ne_nil_of_length_pos (by omega)
  have hchars : ∀ c ∈ Url.Domain.farApart,
      ' ' < c ∧ c ∉ ['#', '/', ':', '?', '@', '[', '\\', ']'] := by
    have hascii : ∀ d ∈ ['#', '/', ':', '?', '@', '[', '\\', ']'], d.toNat < 0x80 := by simp
    intro c hc
    have hlow := (hideographs c hc).1
    refine ⟨Nat.lt_of_lt_of_le (by decide) hlow, fun hm ↦ ?_⟩
    have := hascii c hm
    omega
  rw [farApartText, Url.read_of_host (by decide) hne hchars,
    Url.Domain.ofDomain_of_isIdeograph hideographs hne (by omega)]
  rfl

/-- **Adding a pair can make an address unreadable**: this one has a host that is written with more
characters than are read. -/
theorem not_read_appendPair_farApart :
    ∃ u r, Url.read farApartText = .ok u ∧ u.scheme = "http".toList ∧
      appendPair farApartText ['k'] ['v'] = .ok r ∧ Url.read r = .error .domain := by
  have hlegible : farApartAddress.isLegible = false := by
    rw [Url.isLegible, farApartAddress, Option.all_some, Url.Host.isLegible,
      Url.Domain.isLegible_farApart]
  refine ⟨farApartAddress, (farApartAddress.append (['k'], ['v'])).text, read_farApartText, rfl,
    ?_, ?_⟩
  · rw [appendPair, read_farApartText]
  · rw [Url.read_text_append read_farApartText (.inl rfl), hlegible, if_neg Bool.false_ne_true]

end Unscramble.Media
