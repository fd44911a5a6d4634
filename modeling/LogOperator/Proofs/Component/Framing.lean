import LogOperator.Component.Aggregator
import Mathlib.Algebra.Ring.Nat

/-!
# LogOperator.Proofs.Component.Framing

The bytes that a fingerprint is taken of, read back.  A frame is the length of an input in eight bytes
and the input itself, so frames can be cut off one after the other, whatever the inputs look like:

* `bytesLE_eq_iff` — a number in a fixed count of bytes, read back;
* `unframe?_eq_some_iff` — the first input, and what follows it;
* `inputs?_eq_some_iff` — all inputs;
* `bytes_tell_inputs` — so different inputs are digested as different bytes.
-/

namespace LogOperator

/-! ## Numbers and texts -/

/-- The number that bytes stand for, the least significant one first. -/
def numberLE : List UInt8 → Nat
  | [] => 0
  | b :: bs => b.toNat + 256 * numberLE bs

/-- Bytes that are too few lose the higher digits of a number, and nothing else. -/
theorem numberLE_bytesLE (k n : Nat) : numberLE (bytesLE k n) = n % 256 ^ k := by
  induction k generalizing n with
  | zero => rw [bytesLE, numberLE, Nat.pow_zero, Nat.mod_one]
  | succ k ih =>
      have hlow : n.toUInt8.toNat = n % 256 := by simp
      rw [bytesLE, numberLE, ih, hlow, Nat.pow_succ, Nat.mul_comm (256 ^ k), Nat.mod_mul]

/-- So many bytes hold no greater number. -/
theorem numberLE_lt (bs : List UInt8) : numberLE bs < 256 ^ bs.length := by
  induction bs with
  | nil => decide
  | cons b bs ih =>
      have hb := b.toNat_lt
      rw [numberLE, List.length_cons, Nat.pow_succ]
      omega

/-- Bytes are written again from the number that they hold. -/
theorem bytesLE_numberLE (bs : List UInt8) : bytesLE bs.length (numberLE bs) = bs := by
  induction bs with
  | nil => rfl
  | cons b bs ih =>
      have hb := b.toNat_lt
      have hlow : (b.toNat + 256 * numberLE bs).toUInt8 = b := by
        refine UInt8.toNat_inj.1 ?_
        simp
      have hhigh : (b.toNat + 256 * numberLE bs) / 256 = numberLE bs := by omega
      rw [numberLE, List.length_cons, bytesLE, hlow, hhigh, ih]

/-- **A number in a fixed count of bytes, read back.** -/
theorem bytesLE_eq_iff {k n : Nat} {bs : List UInt8} (hn : n < 256 ^ k) :
    bytesLE k n = bs ↔ bs.length = k ∧ numberLE bs = n := by
  constructor
  · rintro rfl
    exact ⟨length_bytesLE k n, by rw [numberLE_bytesLE, Nat.mod_eq_of_lt hn]⟩
  · rintro ⟨rfl, rfl⟩
    exact bytesLE_numberLE bs

theorem length_utf8 (s : String) : (utf8 s).length = s.utf8ByteSize := by
  simp [utf8]

/-- The text that bytes are the UTF-8 form of. -/
def ofUtf8? (bs : List UInt8) : Option String :=
  String.fromUTF8? ⟨bs.toArray⟩

/-- Exactly the bytes of a text are read as this text. -/
theorem ofUtf8?_eq_some_iff {bs : List UInt8} {s : String} : ofUtf8? bs = some s ↔ utf8 s = bs := by
  constructor
  · intro h
    unfold ofUtf8? String.fromUTF8? at h
    split at h
    · cases h
      rfl
    · contradiction
  · rintro rfl
    unfold ofUtf8? String.fromUTF8?
    have hbytes : (⟨(utf8 s).toArray⟩ : ByteArray) = s.toByteArray := rfl
    rw [dif_pos (hbytes ▸ s.isValidUTF8)]
    rfl

namespace Fingerprint

variable {bs rest : List UInt8} {part : String} {parts ps qs : List String}

/-! ## Frames -/

theorem length_frame (part : String) : (frame part).length = 8 + part.utf8ByteSize := by
  rw [frame, List.length_append, length_bytesLE, length_utf8]

/-- The input in the frame that bytes begin with, and the bytes behind the frame. -/
def unframe? (bs : List UInt8) : Option (String × List UInt8) :=
  let size := numberLE (bs.take 8)
  if 8 + size ≤ bs.length then
    (ofUtf8? ((bs.drop 8).take size)).map fun part => (part, bs.drop (8 + size))
  else none

/-- **The first input, read back** together with what follows it. -/
theorem unframe?_eq_some_iff : unframe? bs = some (part, rest) ↔
    part.utf8ByteSize < 256 ^ 8 ∧ frame part ++ rest = bs := by
  constructor
  · intro h
    simp only [unframe?, Option.ite_none_right_eq_some, Option.map_eq_some_iff] at h
    obtain ⟨hle, text, htext, heq⟩ := h
    cases heq
    rw [ofUtf8?_eq_some_iff] at htext
    have hsize : part.utf8ByteSize = numberLE (bs.take 8) := by
      rw [← length_utf8, htext, List.length_take, List.length_drop]
      omega
    have hcount : (bs.take 8).length = 8 := by
      rw [List.length_take]
      omega
    have hlt : numberLE (bs.take 8) < 256 ^ (bs.take 8).length := numberLE_lt _
    rw [hcount, ← hsize] at hlt
    refine ⟨hlt, ?_⟩
    rw [frame, (bytesLE_eq_iff hlt).2 ⟨hcount, hsize.symm⟩, htext, List.append_assoc,
      ← List.drop_drop, List.take_append_drop, List.take_append_drop]
  · rintro ⟨hlt, rfl⟩
    have hcount : (bytesLE 8 part.utf8ByteSize).length = 8 := length_bytesLE 8 _
    have htake : (frame part ++ rest).take 8 = bytesLE 8 part.utf8ByteSize := by
      rw [frame, List.append_assoc, List.take_left' hcount]
    have hdrop : (frame part ++ rest).drop 8 = utf8 part ++ rest := by
      rw [frame, List.append_assoc, List.drop_left' hcount]
    have hsize : numberLE ((frame part ++ rest).take 8) = part.utf8ByteSize := by
      rw [htake, numberLE_bytesLE, Nat.mod_eq_of_lt hlt]
    have hlength : (frame part ++ rest).length = 8 + part.utf8ByteSize + rest.length := by
      rw [List.length_append, length_frame]
    unfold unframe?
    rw [hsize, if_pos (by omega), hdrop, List.take_left' (length_utf8 part),
      ofUtf8?_eq_some_iff.2 rfl, ← List.drop_drop, hdrop, List.drop_left' (length_utf8 part),
      Option.map_some]

/-- A frame is cut off, so there is less left. -/
theorem length_lt_of_unframe? (h : unframe? bs = some (part, rest)) : rest.length < bs.length := by
  rw [← (unframe?_eq_some_iff.1 h).2, List.length_append, length_frame]
  omega

/-! ## Inputs -/

/-- The length of every input fits into eight bytes, as that of every text in memory does. -/
def Sized (parts : List String) : Prop :=
  ∀ part ∈ parts, part.utf8ByteSize < 256 ^ 8

instance (parts : List String) : Decidable (Sized parts) :=
  inferInstanceAs (Decidable (∀ part ∈ parts, part.utf8ByteSize < 256 ^ 8))

theorem sized_cons : Sized (part :: parts) ↔ part.utf8ByteSize < 256 ^ 8 ∧ Sized parts :=
  List.forall_mem_cons

theorem framed_cons (part : String) (parts : List String) :
    framed (part :: parts) = frame part ++ framed parts :=
  List.flatMap_cons

/-- The inputs that bytes are the frames of. -/
def inputs? (bs : List UInt8) : Option (List String) :=
  if bs = [] then some []
  else
    match h : unframe? bs with
    | none => none
    | some (part, rest) =>
      have : rest.length < bs.length := length_lt_of_unframe? h
      (inputs? rest).map (part :: ·)
termination_by bs.length

theorem inputs?_nil : inputs? [] = some [] := by
  rw [inputs?, if_pos rfl]

/-- Bytes that are left are taken for a frame and what comes after it. -/
theorem inputs?_of_ne_nil (h : bs ≠ []) :
    inputs? bs = (unframe? bs).bind fun first => (inputs? first.2).map (first.1 :: ·) := by
  rw [inputs?, if_neg h]
  split
  · next hnone => rw [hnone, Option.bind_none]
  · next part rest hsome => simp only [hsome, Option.bind_some]

/-- Only no bytes are no parts. -/
theorem inputs?_eq_nil_iff : inputs? bs = some [] ↔ bs = [] := by
  by_cases hbs : bs = []
  · rw [hbs, inputs?_nil]
    exact iff_of_true rfl rfl
  · rw [inputs?_of_ne_nil hbs]
    simp [hbs, Option.bind_eq_some_iff]

/-- Bytes are read as a first part and others exactly if a frame of the first stands before the
frames of the others. -/
theorem inputs?_eq_cons_iff : inputs? bs = some (part :: parts) ↔
    ∃ rest, unframe? bs = some (part, rest) ∧ inputs? rest = some parts := by
  by_cases hbs : bs = []
  · rw [hbs, inputs?_nil]
    refine iff_of_false (by simp) ?_
    rintro ⟨rest, hframe, -⟩
    exact absurd (length_lt_of_unframe? hframe) (Nat.not_lt_zero _)
  · rw [inputs?_of_ne_nil hbs]
    constructor
    · intro h
      obtain ⟨first, hframe, hmap⟩ := Option.bind_eq_some_iff.1 h
      obtain ⟨tail, htail, hcons⟩ := Option.map_eq_some_iff.1 hmap
      obtain ⟨rfl, rfl⟩ := List.cons.inj hcons
      exact ⟨first.2, hframe, htail⟩
    · rintro ⟨rest, hframe, htail⟩
      rw [hframe, Option.bind_some, htail, Option.map_some]

/-- **All inputs, read back.**  Only the frames of inputs are read. -/
theorem inputs?_eq_some_iff : inputs? bs = some parts ↔ Sized parts ∧ framed parts = bs := by
  induction parts generalizing bs with
  | nil =>
      rw [inputs?_eq_nil_iff]
      exact ⟨fun h => ⟨List.forall_mem_nil _, h.symm⟩, fun h => h.2.symm⟩
  | cons part parts ih =>
      rw [inputs?_eq_cons_iff, sized_cons]
      constructor
      · rintro ⟨rest, hframe, hrest⟩
        obtain ⟨hlt, rfl⟩ := unframe?_eq_some_iff.1 hframe
        obtain ⟨hsized, rfl⟩ := ih.1 hrest
        exact ⟨⟨hlt, hsized⟩, framed_cons part parts⟩
      · rintro ⟨⟨hlt, hsized⟩, rfl⟩
        exact ⟨framed parts, unframe?_eq_some_iff.2 ⟨hlt, (framed_cons part parts).symm⟩,
          ih.2 ⟨hsized, rfl⟩⟩

/-- The bytes that are digested determine the inputs. -/
theorem framed_inj (hp : Sized ps) (hq : Sized qs) (h : framed ps = framed qs) : ps = qs :=
  Option.some.inj ((inputs?_eq_some_iff.2 ⟨hp, h⟩).symm.trans (inputs?_eq_some_iff.2 ⟨hq, rfl⟩))

end Fingerprint

/-! ## Files among the inputs -/

/-- Files are told by their names and contents in a row. -/
theorem flatMap_pair_inj {es es' : List (String × String)}
    (h : (es.flatMap fun f => [f.1, f.2]) = es'.flatMap fun f => [f.1, f.2]) : es = es' := by
  induction es generalizing es' with
  | nil =>
      cases es' with
      | nil => rfl
      | cons f' es' => contradiction
  | cons f es ih =>
      cases es' with
      | nil => contradiction
      | cons f' es' =>
          simp only [List.flatMap_cons, List.cons_append, List.nil_append, List.cons.injEq] at h
          obtain ⟨hname, htext, htail⟩ := h
          rw [ih htail, Prod.ext hname htext]

/-- The files that a workload mounts are among its inputs. -/
theorem files_inj {files files' : TextMap} {xs xs' : List String}
    (h : (files.entries.flatMap fun f => [f.1, f.2]) ++ xs
      = (files'.entries.flatMap fun f => [f.1, f.2]) ++ xs') (hlen : xs.length = xs'.length) :
    files = files' := by
  have hentries := flatMap_pair_inj (List.append_inj_left' h hlen)
  obtain ⟨es, hes⟩ := files
  obtain ⟨es', hes'⟩ := files'
  subst hentries
  rfl

/-- A list determines its last two items. -/
theorem append_pair_inj {xs xs' : List String} {a a' b b' : String}
    (h : xs ++ [a, b] = xs' ++ [a', b']) : a = a' ∧ b = b' := by
  have htail := List.append_inj_right' h rfl
  simpa using htail

namespace Fingerprint

open Component

/-- **The bytes that are digested tell the inputs**: inputs of less than 2⁶⁴ bytes each are digested as
the same bytes only if they are the same, in number, order and text.  All inputs are read back from
their bytes, whatever they look like, and bytes that are not made like that are not read.  So the bytes
digested for the aggregator tell its files, name by name, apart from the address of the search engine
and the image behind them. -/
theorem bytes_tell_inputs :
    (∀ ps qs, Sized ps → Sized qs → (framed ps = framed qs ↔ ps = qs)) ∧
    (∀ bs ps, inputs? bs = some ps ↔ Sized ps ∧ framed ps = bs) ∧
    ∀ files files' e e' images images', Sized (Aggregator.parts files e images) →
      Sized (Aggregator.parts files' e' images') →
      framed (Aggregator.parts files e images) = framed (Aggregator.parts files' e' images') →
      files = files' ∧ e.url = e'.url ∧ images.aggregator = images'.aggregator := by
  refine ⟨fun ps qs hp hq => ⟨framed_inj hp hq, congrArg framed⟩, fun bs ps => inputs?_eq_some_iff, ?_⟩
  intro files files' e e' images images' hp hq h
  have hparts : Aggregator.parts files e images = Aggregator.parts files' e' images' :=
    framed_inj hp hq h
  obtain ⟨hurl, himage⟩ := append_pair_inj hparts
  exact ⟨files_inj hparts rfl, hurl, himage⟩

/-- The second of three inputs is what the length of the third one is written as. -/
def lookalikes : List String :=
  ["", "\x02\x00\x00\x00\x00\x00\x00\x00", "ab"]

/-- A text that moves from one input to the next is seen, and so is a file of two without text. -/
theorem bytes_tell_inputs_lookalikes :
    Sized ["a", "bc"] ∧ Sized ["ab", "c"] ∧ framed ["a", "bc"] ≠ framed ["ab", "c"] ∧
    Sized lookalikes ∧ inputs? (framed lookalikes) = some lookalikes ∧
    Sized (Aggregator.parts (.ofList [("a", "")]) default .standard) ∧
    Sized (Aggregator.parts (.ofList [("a", ""), ("b", "")]) default .standard) ∧
    framed (Aggregator.parts (.ofList [("a", "")]) default .standard)
      ≠ framed (Aggregator.parts (.ofList [("a", ""), ("b", "")]) default .standard) := by
  obtain ⟨htells, hread, hfiles⟩ := bytes_tell_inputs
  have hsized : Sized ["a", "bc"] ∧ Sized ["ab", "c"] ∧ Sized lookalikes ∧
      Sized (Aggregator.parts (.ofList [("a", "")]) default .standard) ∧
      Sized (Aggregator.parts (.ofList [("a", ""), ("b", "")]) default .standard) := by
    decide +kernel
  obtain ⟨hab, hba, halike, hone, htwo⟩ := hsized
  refine ⟨hab, hba, ?_, halike, (hread _ _).2 ⟨halike, rfl⟩, hone, htwo, ?_⟩
  · rw [Ne, htells _ _ hab hba]
    decide
  · intro h
    exact absurd (hfiles _ _ _ _ _ _ hone htwo h).1 (by decide +kernel)

end Fingerprint

end LogOperator
