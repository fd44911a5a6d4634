import LogOperator.Proofs.Json.Scalars

/-!
# LogOperator.Proofs.Json.RoundTrip

JSON texts read back.  What the writer makes of a value, the reader takes for that value, as long as the
value is one that a text can stand for (`Json.isPrintable`): its whole numbers are in the range of 64
bits, its other numbers are written as numbers, and it is not nested too deep.

* `ReadsBack` is what the text of a value is read as, with whatever follows it;
* `readsBack` has one case for each kind of value;
* `parse?_render` is about whole texts.
-/

namespace LogOperator.Json

open Text

variable {c : Char} {cs rest : List Char} {fuel : Nat}

/-! ## Values -/

mutual

/-- A text can stand for the value: its whole numbers are in the range of 64 bits, its other numbers are
written as such, and lists and objects are nested in it no deeper than the given depth. -/
def isPrintable : Nat → Json → Bool
  | _, .null => true
  | _, .bool _ => true
  | _, .int n => -9223372036854775808 ≤ n && n < UInt64.size
  | _, .real source =>
    match number? source.toList with
    | some (.real s, []) => s == source
    | _ => false
  | _, .text _ => true
  | 0, .list _ => false
  | 0, .object _ => false
  | depth + 1, .list items => arePrintable depth items
  | depth + 1, .object ms => havePrintable depth ms

/-- Texts can stand for the items. -/
def arePrintable : Nat → List Json → Bool
  | _, [] => true
  | depth, j :: js => isPrintable depth j && arePrintable depth js

/-- Texts can stand for the values of the members. -/
def havePrintable : Nat → List (String × Json) → Bool
  | _, [] => true
  | depth, (_, j) :: ms => isPrintable depth j && havePrintable depth ms

end

variable {depth : Nat} {j : Json}

theorem skipBlanks_cons (h : isBlank c = false) : skipBlanks (c :: cs) = c :: cs := by
  rw [skipBlanks, List.dropWhile_cons_of_neg (by simp [h])]

/-- What starts with a digit or a minus sign is read as a number. -/
theorem value?_eq_number? (h : c.isDigit = true ∨ c = '-') :
    value? (fuel + 1) depth (c :: cs) = number? (c :: cs) := by
  have hne {d : Char} (hdigit : d.isDigit = false) (hminus : d ≠ '-') (cs' : List Char) :
      c :: cs ≠ d :: cs' := by
    rintro ⟨⟩
    exact h.elim (fun h => by simp [hdigit] at h) hminus
  rw [value?.eq_def]
  dsimp only
  split
  · next heq => cases heq
  -- the first characters of values that are no numbers are no digits and no signs
  all_goals try exact absurd ‹c :: cs = _› (hne rfl (by decide) _)
  rfl

/-- A number stands for a value wherever a text ends it. -/
theorem value?_of_number? (h : number? cs = some (j, [])) (hrest : Ends rest) :
    value? (fuel + 1) depth (cs ++ rest) = some (j, rest) := by
  have hnumber := number?_append h hrest
  cases cs with
  | nil => contradiction
  | cons c cs =>
      rw [List.cons_append] at hnumber ⊢
      rw [value?_eq_number? (number?_cons h), hnumber]
      rfl

/-- A value does not start with a blank or a closing bracket. -/
theorem exists_cons_of_value? {r : Json × List Char} (h : value? fuel depth cs = some r) :
    ∃ c cs', cs = c :: cs' ∧ isBlank c = false ∧ c ≠ ']' := by
  cases fuel with
  | zero => contradiction
  | succ fuel =>
      rw [value?.eq_def] at h
      dsimp only at h
      split at h
      · contradiction
      case h_8 =>
        cases cs with
        | nil => contradiction
        | cons c cs =>
            refine ⟨c, cs, rfl, ?_⟩
            rcases number?_cons h with hdigit | rfl
            · have hne {d : Char} (hd : d.isDigit = false) : c ≠ d := by
                rintro rfl
                simp [hdigit] at hd
              simp [isBlank, hne (d := ' ') rfl, hne (d := '\t') rfl, hne (d := '\n') rfl,
                hne (d := '\r') rfl, hne (d := ']') rfl]
            · decide
      all_goals exact ⟨_, _, rfl, by decide, by decide⟩

/-! ## Lists and objects -/

/-- After an opening bracket and something else than its end, items are read. -/
theorem value?_bracket (h : ∃ c cs', cs = c :: cs' ∧ isBlank c = false ∧ c ≠ ']') :
    value? (fuel + 1) (depth + 1) ('[' :: cs)
      = (items? fuel depth cs).map fun r => (.list r.1, r.2) := by
  obtain ⟨c, cs, rfl, hblank, hclose⟩ := h
  rw [value?, if_neg (Nat.succ_ne_zero depth), skipBlanks_cons hblank]
  split
  · next heq =>
    cases heq
    exact absurd rfl hclose
  · rfl

/-- After an opening brace and a quote, members are read. -/
theorem value?_brace (h : ∃ cs', cs = '"' :: cs') :
    value? (fuel + 1) (depth + 1) ('\x7b' :: cs)
      = (members? fuel depth cs).map fun r => (.object r.1, r.2) := by
  obtain ⟨cs', rfl⟩ := h
  rw [value?.eq_def]
  rfl

/-- What a value is read from without blanks does not start with one. -/
theorem skipBlanks_of_value? {r : Json × List Char} (h : value? fuel depth cs = some r) :
    skipBlanks cs = cs := by
  obtain ⟨c, cs, rfl, hblank, -⟩ := exists_cons_of_value? h
  exact skipBlanks_cons hblank

/-- Items start with the first character of a value. -/
theorem exists_cons_of_items? {r : List Json × List Char} (h : items? fuel depth cs = some r) :
    ∃ c cs', cs = c :: cs' ∧ isBlank c = false ∧ c ≠ ']' := by
  cases fuel with
  | zero => contradiction
  | succ fuel =>
      rw [items?.eq_def] at h
      cases hvalue : value? fuel depth cs with
      | none => simp [hvalue] at h
      | some r => exact exists_cons_of_value? hvalue

theorem skipBlanks_of_items? {r : List Json × List Char} (h : items? fuel depth cs = some r) :
    skipBlanks cs = cs := by
  obtain ⟨c, cs, rfl, hblank, -⟩ := exists_cons_of_items? h
  exact skipBlanks_cons hblank

/-- An item and a comma are read in front of other items. -/
theorem items?_cons {r : List Json × List Char}
    (h : value? fuel depth cs = some (j, ',' :: rest)) (hrest : items? fuel depth rest = some r) :
    items? (fuel + 1) depth cs = some (j :: r.1, r.2) := by
  have hcomma : skipBlanks (',' :: rest) = ',' :: rest := skipBlanks_cons rfl
  rw [items?.eq_def]
  simp only [h, hcomma, skipBlanks_of_items? hrest, hrest, Option.map_some]

theorem items?_last (h : value? fuel depth cs = some (j, ']' :: rest)) :
    items? (fuel + 1) depth cs = some ([j], rest) := by
  have hclose : skipBlanks (']' :: rest) = ']' :: rest := skipBlanks_cons rfl
  rw [items?.eq_def]
  simp only [h, hclose]

/-- Members start with a name. -/
theorem exists_cons_of_members? {r : List (String × Json) × List Char}
    (h : members? fuel depth cs = some r) : ∃ cs', cs = '"' :: cs' := by
  cases fuel with
  | zero => contradiction
  | succ fuel =>
      rw [members?.eq_def] at h
      dsimp only at h
      split at h
      · exact ⟨_, rfl⟩
      · contradiction

/-- Members do not start with a blank, either. -/
theorem skipBlanks_of_members? {r : List (String × Json) × List Char}
    (h : members? fuel depth cs = some r) : skipBlanks cs = cs := by
  obtain ⟨cs, rfl⟩ := exists_cons_of_members? h
  exact skipBlanks_cons rfl

/-- A member and a comma are read in front of other members. -/
theorem members?_cons {name : String} {vs : List Char}
    {r : List (String × Json) × List Char} (hname : string? cs = some (name, ':' :: vs))
    (h : value? fuel depth vs = some (j, ',' :: rest))
    (hrest : members? fuel depth rest = some r) :
    members? (fuel + 1) depth ('"' :: cs) = some ((name, j) :: r.1, r.2) := by
  have hcolon : skipBlanks (':' :: vs) = ':' :: vs := skipBlanks_cons rfl
  have hcomma : skipBlanks (',' :: rest) = ',' :: rest := skipBlanks_cons rfl
  simp only [members?, hname, hcolon, skipBlanks_of_value? h, h, hcomma,
    skipBlanks_of_members? hrest, hrest, Option.map_some]

theorem members?_last {name : String} {vs : List Char}
    (hname : string? cs = some (name, ':' :: vs))
    (h : value? fuel depth vs = some (j, '\x7d' :: rest)) :
    members? (fuel + 1) depth ('"' :: cs) = some ([(name, j)], rest) := by
  have hcolon : skipBlanks (':' :: vs) = ':' :: vs := skipBlanks_cons rfl
  have hclose : skipBlanks ('\x7d' :: rest) = '\x7d' :: rest := skipBlanks_cons rfl
  simp only [members?, hname, hcolon, skipBlanks_of_value? h, h, hclose]

/-! ## Texts of values -/

/-- A text is written between quotes, each character with its escape. -/
theorem toList_string (s : String) (rest : List Char) :
    (string s).toList ++ rest = '"' :: (s.toList.flatMap escapedChar ++ '"' :: rest) := by
  rw [string, String.toList_ofList, List.cons_append, List.append_assoc]
  rfl

/-- The text of the items of a list, separated by commas. -/
def itemsText (js : List Json) : List Char :=
  (joinWith "," (renderItems js)).toList

/-- The text of the members of an object, separated by commas. -/
def membersText (ms : List (String × Json)) : List Char :=
  (joinWith "," (renderMembers ms)).toList

theorem toList_render_list (js : List Json) :
    (render (.list js)).toList = '[' :: (itemsText js ++ [']']) := by
  rw [render, String.toList_append, String.toList_append]
  rfl

theorem toList_render_object (ms : List (String × Json)) :
    (render (.object ms)).toList = '\x7b' :: (membersText ms ++ ['\x7d']) := by
  rw [render, String.toList_append, String.toList_append]
  rfl

theorem itemsText_singleton (j : Json) : itemsText [j] = (render j).toList := rfl

/-- Items stand with commas between them. -/
theorem itemsText_cons (j j' : Json) (js : List Json) :
    itemsText (j :: j' :: js) = (render j).toList ++ ',' :: itemsText (j' :: js) := by
  rw [itemsText, renderItems, renderItems, joinWith, String.toList_append, String.toList_append,
    List.append_assoc]
  rfl

theorem membersText_singleton (name : String) (j : Json) :
    membersText [(name, j)] = (string name).toList ++ ':' :: (render j).toList := by
  rw [membersText, renderMembers, renderMembers, joinWith, String.toList_append,
    String.toList_append, List.append_assoc]
  rfl

theorem membersText_cons (name : String) (j : Json) (m : String × Json)
    (ms : List (String × Json)) : membersText ((name, j) :: m :: ms)
      = (string name).toList ++ ':' :: ((render j).toList ++ ',' :: membersText (m :: ms)) := by
  obtain ⟨name', j'⟩ := m
  rw [membersText, renderMembers, renderMembers, joinWith, String.toList_append,
    String.toList_append, String.toList_append, String.toList_append, List.append_assoc,
    List.append_assoc, List.append_assoc]
  rfl

/-- The text of a whole number, in the range of 64 bits. -/
theorem number?_render_int {n : Int} (h : isPrintable depth (.int n) = true) :
    number? (render (.int n)).toList = some (.int n, []) := by
  simp only [isPrintable, Bool.and_eq_true, decide_eq_true_iff] at h
  rw [render]
  split
  · next hneg =>
    rw [String.toList_append, Nat.toList_repr]
    have := number?_minus_toDigits (n := n.natAbs) (by omega) (by omega)
    rwa [show -(n.natAbs : Int) = n by omega] at this
  · next hpos =>
    rw [Nat.toList_repr]
    have := number?_toDigits (n := n.natAbs) (by omega)
    rwa [show (n.natAbs : Int) = n by omega] at this

/-- The text of another number. -/
theorem number?_render_real {source : String} (h : isPrintable depth (.real source) = true) :
    number? (render (.real source)).toList = some (.real source, []) := by
  simp only [isPrintable] at h
  rw [render]
  split at h
  · next s hnumber => rw [hnumber, beq_iff_eq.1 h]
  · contradiction

/-! ## Values and whole texts -/

/-- With the given depth left, the value is read back from its text, up to what follows it. -/
def ReadsBack (depth : Nat) (j : Json) : Prop :=
  ∀ {fuel : Nat} {rest : List Char}, Ends rest → 2 * (render j).toList.length < fuel →
    value? fuel depth ((render j).toList ++ rest) = some (j, rest)

/-- A number ends at a comma, a bracket or a brace. -/
theorem ends_of_separator (h : c = ',' ∨ c = ']' ∨ c = '\x7d') : Ends (c :: rest) := by
  rcases h with rfl | rfl | rfl <;> exact ends_cons (by decide)

/-- **Items are read back** from their text if each of them is, with steps enough for the
characters. -/
theorem items?_itemsText {js : List Json} (h : ∀ i ∈ j :: js, ReadsBack depth i)
    (hfuel : 2 * (itemsText (j :: js)).length + 1 < fuel) :
    items? fuel depth (itemsText (j :: js) ++ ']' :: rest) = some (j :: js, rest) := by
  induction js generalizing j fuel with
  | nil =>
      obtain ⟨fuel, rfl⟩ : ∃ n, fuel = n + 1 := ⟨fuel - 1, by omega⟩
      rw [itemsText_singleton] at hfuel ⊢
      exact items?_last (h j List.mem_cons_self (ends_of_separator (by decide)) (by omega))
  | cons j' js ih =>
      obtain ⟨fuel, rfl⟩ : ∃ n, fuel = n + 1 := ⟨fuel - 1, by omega⟩
      obtain ⟨hj, hjs⟩ := List.forall_mem_cons.1 h
      rw [itemsText_cons, List.length_append, List.length_cons] at hfuel
      rw [itemsText_cons, List.append_assoc, List.cons_append]
      exact items?_cons (hj (ends_of_separator (by decide)) (by omega)) (ih hjs (by omega))

/-- **Members are read back** in the same way. -/
theorem members?_membersText {m : String × Json} {ms : List (String × Json)}
    (h : ∀ n ∈ m :: ms, ReadsBack depth n.2)
    (hfuel : 2 * (membersText (m :: ms)).length + 1 < fuel) :
    members? fuel depth (membersText (m :: ms) ++ '\x7d' :: rest) = some (m :: ms, rest) := by
  induction ms generalizing m fuel with
  | nil =>
      obtain ⟨fuel, rfl⟩ : ∃ n, fuel = n + 1 := ⟨fuel - 1, by omega⟩
      obtain ⟨name, j⟩ := m
      have hj : ReadsBack depth j := h _ List.mem_cons_self
      rw [membersText_singleton, List.length_append, List.length_cons] at hfuel
      rw [membersText_singleton, List.append_assoc, toList_string]
      exact members?_last (string?_escaped name _)
        (hj (ends_of_separator (by decide)) (by omega))
  | cons m' ms ih =>
      obtain ⟨fuel, rfl⟩ : ∃ n, fuel = n + 1 := ⟨fuel - 1, by omega⟩
      obtain ⟨name, j⟩ := m
      obtain ⟨hj, hms⟩ : ReadsBack depth j ∧ ∀ n ∈ m' :: ms, ReadsBack depth n.2 :=
        List.forall_mem_cons.1 h
      rw [membersText_cons, List.length_append, List.length_cons, List.length_append,
        List.length_cons] at hfuel
      rw [membersText_cons, List.append_assoc, toList_string, List.cons_append, List.append_assoc]
      exact members?_cons (string?_escaped name _)
        (hj (ends_of_separator (by decide)) (by omega)) (ih hms (by omega))

/-- A list of values that are read back is read back. -/
theorem readsBack_list {js : List Json} (h : ∀ j ∈ js, ReadsBack depth j) :
    ReadsBack (depth + 1) (.list js) := by
  intro fuel rest _ hfuel
  obtain ⟨fuel, rfl⟩ : ∃ n, fuel = n + 1 := ⟨fuel - 1, by omega⟩
  cases js with
  | nil => rfl
  | cons j js =>
      rw [toList_render_list, List.length_cons, List.length_append, List.length_singleton] at hfuel
      have hitems : items? fuel depth (itemsText (j :: js) ++ ']' :: rest) = some (j :: js, rest) :=
        items?_itemsText h (by omega)
      rw [toList_render_list, List.cons_append, List.append_assoc, List.singleton_append,
        value?_bracket (exists_cons_of_items? hitems), hitems]
      rfl

/-- So is an object. -/
theorem readsBack_object {ms : List (String × Json)} (h : ∀ m ∈ ms, ReadsBack depth m.2) :
    ReadsBack (depth + 1) (.object ms) := by
  intro fuel rest _ hfuel
  obtain ⟨fuel, rfl⟩ : ∃ n, fuel = n + 1 := ⟨fuel - 1, by omega⟩
  cases ms with
  | nil => rfl
  | cons m ms =>
      rw [toList_render_object, List.length_cons, List.length_append,
        List.length_singleton] at hfuel
      have hmembers : members? fuel depth (membersText (m :: ms) ++ '\x7d' :: rest)
          = some (m :: ms, rest) := members?_membersText h (by omega)
      rw [toList_render_object, List.cons_append, List.append_assoc, List.singleton_append,
        value?_brace (exists_cons_of_members? hmembers), hmembers]
      rfl

theorem readsBack_of_number? (h : number? (render j).toList = some (j, [])) :
    ReadsBack depth j := by
  intro fuel rest hrest hfuel
  obtain ⟨fuel, rfl⟩ : ∃ n, fuel = n + 1 := ⟨fuel - 1, by omega⟩
  exact value?_of_number? h hrest

theorem readsBack_word (h : j = .null ∨ j = .bool true ∨ j = .bool false) : ReadsBack depth j := by
  intro fuel rest _ hfuel
  obtain ⟨fuel, rfl⟩ : ∃ n, fuel = n + 1 := ⟨fuel - 1, by omega⟩
  rcases h with rfl | rfl | rfl <;> rfl

/-- Every text is read back. -/
theorem readsBack_text (s : String) : ReadsBack depth (.text s) := by
  intro fuel rest _ hfuel
  obtain ⟨fuel, rfl⟩ : ∃ n, fuel = n + 1 := ⟨fuel - 1, by omega⟩
  rw [render, toList_string, value?, string?_escaped]
  rfl

mutual

/-- A printable value is read back from its text. -/
theorem readsBack : ∀ (j : Json) {depth : Nat}, isPrintable depth j = true → ReadsBack depth j
  | .null, _, _ => readsBack_word (.inl rfl)
  | .bool true, _, _ => readsBack_word (.inr (.inl rfl))
  | .bool false, _, _ => readsBack_word (.inr (.inr rfl))
  | .int _, _, h => readsBack_of_number? (number?_render_int h)
  | .real _, _, h => readsBack_of_number? (number?_render_real h)
  | .text s, _, _ => readsBack_text s
  | .list js, _ + 1, h => readsBack_list (readsBack_items js h)
  | .object ms, _ + 1, h => readsBack_object (readsBack_members ms h)

/-- What holds of printable values holds of the items of a list. -/
theorem readsBack_items : ∀ (js : List Json) {depth : Nat}, arePrintable depth js = true →
    ∀ j ∈ js, ReadsBack depth j
  | [], _, _ => fun _ hj => absurd hj List.not_mem_nil
  | j :: js, _, h => by
    rw [arePrintable, Bool.and_eq_true] at h
    exact List.forall_mem_cons.2 ⟨readsBack j h.1, readsBack_items js h.2⟩

/-- And of the members of an object. -/
theorem readsBack_members : ∀ (ms : List (String × Json)) {depth : Nat},
    havePrintable depth ms = true → ∀ m ∈ ms, ReadsBack depth m.2
  | [], _, _ => fun _ hm => absurd hm List.not_mem_nil
  | (_, j) :: ms, _, h => by
    rw [havePrintable, Bool.and_eq_true] at h
    exact List.forall_mem_cons.2 ⟨readsBack j h.1, readsBack_members ms h.2⟩

end

/-- A value that a text can stand for is what its own text stands for. -/
theorem parse?_render (h : isPrintable maxDepth j = true) :
    parse? (render j) = some j := by
  have hvalue := readsBack j h ends_nil (Nat.lt_add_of_pos_right (show 0 < 2 by decide))
  rw [List.append_nil] at hvalue
  simp only [parse?, skipBlanks_of_value? hvalue, hvalue]
  rfl

end LogOperator.Json
