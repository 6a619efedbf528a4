import Mathlib.Data.List.DropRight
import TelemetryGate.Proofs.Text.Cutting
import TelemetryGate.Settings.Validation
import TelemetryGate.Text.Digits
import TelemetryGate.Words

/-!
# Addresses on the web

What a client for the web reads as an address that it can send requests to, in the wording of the
URL standard: a scheme for the web, in any case, and a server behind any number of slashes. What
names a host is left open. Settings are checked for the start of their endpoint only, so that of an
endpoint without issue all that is left to be wrong is the server.
-/

namespace TelemetryGate

namespace Address

/-- A character that does not count at the ends of a text: a control character or a space. -/
def isFringe (c : Char) : Bool := c.toNat ≤ 0x20

/-- A character that does not count anywhere: a tab or the end of a line. -/
def isSkipped (c : Char) : Bool := c = '\t' || c = '\n' || c = '\r'

/-- The characters that count. -/
def bare (cs : List Char) : List Char :=
  ((cs.dropWhile isFringe).rdropWhile isFringe).filter (!isSkipped ·)

/-- A slash of either kind. -/
def isSlash (c : Char) : Bool := c = '/' || c = '\\'

/-- A character behind the server. -/
def endsServer (c : Char) : Bool := isSlash c || c = '?' || c = '#'

/-- The text starts with a scheme for the web. -/
def hasScheme (cs : List Char) : Bool :=
  ':' ∈ cs ∧
    String.ofList ((cs.takeWhile (· ≠ ':')).map Char.toLower) ∈ ["http", "https"]

/-- The server behind the scheme: what stands behind the slashes and the name of a user. -/
def server (cs : List Char) : List Char :=
  ((((cs.dropWhile (· ≠ ':')).tail).dropWhile isSlash).takeWhile (!endsServer ·)).rtakeWhile
    (· ≠ '@')

/-- A host, and what stands behind it from the first colon on that is not in brackets. -/
def cutPort (inside : Bool) : List Char → List Char × List Char
  | [] => ([], [])
  | c :: rest =>
    if c = ':' ∧ !inside then ([], c :: rest)
    else
      let (host, port) := cutPort (c = '[' || (inside && c ≠ ']')) rest
      (c :: host, port)

/-- Nothing, or a colon and a number of 16 bits, which may be left out. -/
def isPort (cs : List Char) : Bool :=
  cs.tail.all Char.isDigit && Text.decimal cs.tail < twoPow 16

/-- The server has a host, one that names a host, and a port, if any, that is one. -/
def namesServer (hosts : String → Bool) (server : List Char) : Bool :=
  let (host, port) := cutPort false server
  host ≠ [] && hosts (String.ofList host) && isPort port

end Address

/-- A text is an address on the web, if we know what names a host. -/
def isAddress (hosts : String → Bool) (s : String) : Bool :=
  Address.hasScheme (Address.bare s.toList) &&
    Address.namesServer hosts (Address.server (Address.bare s.toList))

namespace Address

/-- Characters that count are left as they are, when others follow. -/
theorem bare_append {front rest : List Char} (hne : front ≠ [])
    (hfront : front.all (!isFringe ·) = true) :
    bare (front ++ rest) = front ++ (rest.rdropWhile isFringe).filter (!isSkipped ·) := by
  simp only [List.all_eq_true, Bool.not_eq_true'] at hfront
  obtain ⟨c, cs, rfl⟩ := List.exists_cons_of_ne_nil hne
  have hstart : (c :: cs ++ rest).dropWhile isFringe = c :: cs ++ rest :=
    List.dropWhile_cons_of_neg (Bool.eq_false_iff.mp (hfront c List.mem_cons_self))
  have hend : (c :: cs ++ rest).rdropWhile isFringe = c :: cs ++ rest.rdropWhile isFringe := by
    have hlast : (c :: cs).reverse.dropWhile isFringe = (c :: cs).reverse := by
      cases hreverse : (c :: cs).reverse with
      | nil => rfl
      | cons last before =>
        have hmem : last ∈ c :: cs := List.mem_reverse.mp (hreverse ▸ List.mem_cons_self)
        exact List.dropWhile_cons_of_neg (Bool.eq_false_iff.mp (hfront last hmem))
    rw [List.rdropWhile, List.rdropWhile, List.reverse_append, List.dropWhile_append, hlast]
    split
    · rename_i hempty
      rw [List.isEmpty_iff.mp hempty, List.reverse_reverse, List.reverse_nil, List.append_nil]
    · rw [List.reverse_append, List.reverse_reverse]
  have hcounts : ∀ d ∈ c :: cs, (!isSkipped d) = true := by
    intro d hd
    have hd := hfront d hd
    rw [Bool.not_eq_true', ← Bool.not_eq_true]
    intro hskipped
    simp only [isSkipped, Bool.or_eq_true, decide_eq_true_eq] at hskipped
    rcases hskipped with (rfl | rfl) | rfl <;> exact absurd hd (by decide)
  rw [bare, hstart, hend, List.filter_append, List.filter_eq_self.mpr hcounts]

end Address

/-- An endpoint without issue starts with a scheme. -/
theorem Settings.hasScheme_of_hasUrl {s : Settings} (h : s.hasUrl = true) :
    Address.hasScheme (Address.bare s.endpoint.toList) = true := by
  rcases Bool.or_eq_true_iff.mp h with h | h
  · obtain ⟨rest, hrest⟩ := Text.startsWith_iff.mp h
    rw [← hrest, Address.bare_append (by decide +kernel) (by decide +kernel)]
    rfl
  · obtain ⟨rest, hrest⟩ := Text.startsWith_iff.mp h
    rw [← hrest, Address.bare_append (by decide +kernel) (by decide +kernel)]
    rfl

/-- So all that can be wrong with it is the server. -/
theorem Settings.isAddress_of_hasUrl {s : Settings} (h : s.hasUrl = true) (hosts : String → Bool) :
    isAddress hosts s.endpoint =
      Address.namesServer hosts (Address.server (Address.bare s.endpoint.toList)) := by
  rw [isAddress, s.hasScheme_of_hasUrl h, Bool.true_and]

end TelemetryGate
