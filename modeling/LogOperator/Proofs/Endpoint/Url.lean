import LogOperator.Endpoint
import LogOperator.Proofs.Text.Numerals
import Mathlib.Data.List.Basic

/-!
# LogOperator.Proofs.Endpoint.Url

The URL of an endpoint, read back.  A host is any text, so a URL is read from both ends: it begins with
a scheme, and what stands behind its last colon is the port.

* `splitLast?_eq_some_iff` — a list cut at its last separator;
* `Scheme.split?_eq_some_iff`, `Endpoint.portOf?_eq_some_iff` — what stands at either end;
* `Endpoint.ofUrl?_eq_some_iff` — the URLs of endpoints are read, and nothing else;
* `Endpoint.url_tells_endpoint` — so different endpoints have different URLs.
-/

namespace LogOperator

/-! ## The last separator -/

section

variable {α : Type} [DecidableEq α] {a : α} {xs xs' ys ys' zs : List α}

/-- The items in front of the last separator, and those behind it. -/
def splitLast? (a : α) : List α → Option (List α × List α)
  | [] => none
  | x :: xs =>
    match splitLast? a xs with
    | some (front, back) => some (x :: front, back)
    | none => if x = a then some ([], xs) else none

/-- A list is not split exactly if the separator is not in it. -/
theorem splitLast?_eq_none_iff : splitLast? a zs = none ↔ a ∉ zs := by
  induction zs with
  | nil => exact iff_of_true rfl List.not_mem_nil
  | cons z zs ih =>
      rw [splitLast?, List.mem_cons, not_or]
      cases hzs : splitLast? a zs with
      | none => simp [ih.1 hzs, eq_comm]
      | some => simp [← ih, hzs]

/-- A list is split where the separator stands for the last time. -/
theorem splitLast?_append (xs : List α) (h : a ∉ ys) :
    splitLast? a (xs ++ a :: ys) = some (xs, ys) := by
  induction xs with
  | nil => rw [List.nil_append, splitLast?, splitLast?_eq_none_iff.2 h, if_pos rfl]
  | cons x xs ih => rw [List.cons_append, splitLast?, ih]

/-- **A list, cut at its last separator.** -/
theorem splitLast?_eq_some_iff : splitLast? a zs = some (xs, ys) ↔ a ∉ ys ∧ xs ++ a :: ys = zs := by
  constructor
  · intro h
    induction zs generalizing xs with
    | nil => contradiction
    | cons z zs ih =>
        rw [splitLast?] at h
        split at h
        · next front back hzs =>
          cases h
          obtain ⟨hback, rfl⟩ := ih hzs
          exact ⟨hback, rfl⟩
        · next hzs =>
          obtain ⟨rfl, heq⟩ := Option.ite_none_right_eq_some.1 h
          cases heq
          exact ⟨splitLast?_eq_none_iff.1 hzs, rfl⟩
  · rintro ⟨hys, rfl⟩
    exact splitLast?_append xs hys

/-- The part behind the last separator. -/
theorem append_cons_inj_of_not_mem (hy : a ∉ ys) (hy' : a ∉ ys')
    (h : xs ++ a :: ys = xs' ++ a :: ys') : xs = xs' ∧ ys = ys' := by
  have hsplit := (splitLast?_append xs hy).symm.trans ((congrArg _ h).trans (splitLast?_append xs' hy'))
  exact Prod.mk.inj (Option.some.inj hsplit)

end

/-! ## The ends of a URL -/

/-- The scheme that a URL begins with, and what follows it. -/
def Scheme.split? (cs : List Char) : Option (Scheme × List Char) :=
  [http, https].findSome? fun s => ((s.name ++ "://").toList.isPrefixOf? cs).map (s, ·)

/-- A scheme is read exactly if its name stands in front. -/
theorem Scheme.split?_eq_some_iff {s : Scheme} {cs rest : List Char} :
    split? cs = some (s, rest) ↔ (s.name ++ "://").toList ++ rest = cs := by
  constructor
  · intro h
    obtain ⟨s', -, hs'⟩ := List.exists_of_findSome?_eq_some h
    obtain ⟨rest', hprefix, heq⟩ := Option.map_eq_some_iff.1 hs'
    cases heq
    exact List.isPrefixOf?_eq_some_iff_append_eq.1 hprefix
  · rintro rfl
    cases s with
    | http => rfl
    | https => rfl

namespace Endpoint

variable {e e' : Endpoint} {u : String}

/-- The port that digits are the decimal form of. -/
def portOf? (ds : List Char) : Option UInt16 :=
  (Text.numeral? 10 ds).bind fun n =>
    if n < UInt16.size ∧ Nat.toDigits 10 n = ds then some n.toUInt16 else none

/-- Exactly the decimal digits of a port are read as this port. -/
theorem portOf?_eq_some_iff {port : UInt16} {ds : List Char} :
    portOf? ds = some port ↔ Nat.toDigits 10 port.toNat = ds := by
  constructor
  · intro h
    obtain ⟨n, -, hn⟩ := Option.bind_eq_some_iff.1 h
    obtain ⟨⟨hlt, hdigits⟩, heq⟩ := Option.ite_none_right_eq_some.1 hn
    cases heq
    rw [Nat.toUInt16, UInt16.toNat_ofNat_of_lt' hlt, hdigits]
  · rintro rfl
    have hlt : port.toNat < UInt16.size := port.toNat_lt_size
    have hport : port.toNat.toUInt16 = port := UInt16.ofNat_toNat
    rw [portOf?, Text.numeral?_toDigits, Option.bind_some, if_pos ⟨hlt, rfl⟩, hport]

/-! ## The whole URL -/

/-- The endpoint that a URL stands for. -/
def ofUrl? (u : String) : Option Endpoint := do
  let (front, digits) ← splitLast? ':' u.toList
  let (scheme, host) ← Scheme.split? front
  let port ← portOf? digits
  return ⟨scheme, String.ofList host, port⟩

theorem toList_url (e : Endpoint) : e.url.toList =
    ((e.scheme.name ++ "://").toList ++ e.host.toList) ++ ':' :: Nat.toDigits 10 e.port.toNat := by
  simp [url, portText]

/-- **A URL, read back.**  The URLs of endpoints are read, and no other text is. -/
theorem ofUrl?_eq_some_iff : ofUrl? u = some e ↔ e.url = u := by
  constructor
  · intro h
    simp only [ofUrl?, Option.bind_eq_bind, Option.bind_eq_some_iff, Prod.exists, Option.pure_def,
      Option.some.injEq] at h
    obtain ⟨front, digits, hlast, scheme, host, hscheme, port, hport, rfl⟩ := h
    obtain ⟨-, hu⟩ := splitLast?_eq_some_iff.1 hlast
    refine String.toList_injective ?_
    rw [toList_url, ← hu, ← Scheme.split?_eq_some_iff.1 hscheme, ← portOf?_eq_some_iff.1 hport,
      String.toList_ofList]
  · rintro rfl
    have hlast := splitLast?_append ((e.scheme.name ++ "://").toList ++ e.host.toList)
      (Text.not_mem_toDigits (c := ':') rfl e.port.toNat)
    have hscheme : Scheme.split? ((e.scheme.name ++ "://").toList ++ e.host.toList)
        = some (e.scheme, e.host.toList) := Scheme.split?_eq_some_iff.2 rfl
    have hport : portOf? (Nat.toDigits 10 e.port.toNat) = some e.port := portOf?_eq_some_iff.2 rfl
    simp only [ofUrl?, toList_url, hlast, hscheme, hport, Option.bind_eq_bind, Option.bind_some,
      String.ofList_toList]
    rfl

/-- The URL of an endpoint determines the endpoint. -/
theorem url_inj (h : e.url = e'.url) : e = e' :=
  Option.some.inj ((ofUrl?_eq_some_iff.2 h).symm.trans (ofUrl?_eq_some_iff.2 rfl))

/-- **A URL tells the endpoint**, whatever text its host is: two endpoints have the same URL only if they
agree in scheme, host and port.  The three are read off the URL, and a text that is the URL of no
endpoint is not read. -/
theorem url_tells_endpoint :
    (∀ e e' : Endpoint, e.url = e'.url ↔
      e.scheme = e'.scheme ∧ e.host = e'.host ∧ e.port = e'.port) ∧
    ∀ (u : String) (e : Endpoint), ofUrl? u = some e ↔ e.url = u := by
  refine ⟨fun e e' => ⟨fun h => ?_, ?_⟩, fun u e => ofUrl?_eq_some_iff⟩
  · rw [url_inj h]
    exact ⟨rfl, rfl, rfl⟩
  · rintro ⟨hscheme, hhost, hport⟩
    rw [url, url, portText, portText, hscheme, hhost, hport]

/-- A host that looks like a URL of its own. -/
example : ofUrl? "http://https://a:1:80" = some ⟨.http, "https://a:1", 80⟩ := by
  decide +kernel

end Endpoint

end LogOperator
