import EdgeGateway.Json.Reader

/-!
# EdgeGateway.Proofs.Json.Grammar

What JSON looks like, said without the reader, and that the reader takes all of it.

* `Json.Written`  : the texts of a value, of the items of an array and of the members of an object,
  with any blanks, any escapes and numbers of any form.
* `Json.IsText`   : a whole text that stands for a value.
* `Json.parse?_of_isText` : it is read as that value.
-/

namespace EdgeGateway.Json

/-! ## Blanks -/

def Blank (cs : List Char) : Prop := ∀ c ∈ cs, isBlank c = true

theorem Blank.nil : Blank [] := by
  intro c hc
  cases hc

theorem skipBlank_append {b : List Char} (hb : Blank b) (cs : List Char) :
    skipBlank (b ++ cs) = skipBlank cs :=
  List.dropWhile_append_of_pos hb

theorem skipBlank_cons {c : Char} (hc : isBlank c = false) (cs : List Char) :
    skipBlank (c :: cs) = c :: cs := by
  simp [skipBlank, hc]

theorem skipBlank_of_blank {b : List Char} (hb : Blank b) : skipBlank b = [] := by
  have h := skipBlank_append hb []
  rwa [List.append_nil] at h

/-! ## Texts -/

/-- The characters between the quotes spell the units. -/
inductive Spelled : List TextUnit → List Char → Prop where
  | nil : Spelled [] []
  | plain {c : Char} {us : List TextUnit} {cs : List Char} : 0x20 ≤ c.toNat → c ≠ '"' → c ≠ '\\' →
      Spelled us cs → Spelled (.char c :: us) (c :: cs)
  | escape {e c : Char} {us : List TextUnit} {cs : List Char} : escape? e = some c →
      Spelled us cs → Spelled (.char c :: us) ('\\' :: e :: cs)
  | code {w x y z : Char} {n : Nat} {us : List TextUnit} {cs : List Char} :
      hexQuad? w x y z = some n → Spelled us cs →
      Spelled (.code n :: us) ('\\' :: 'u' :: w :: x :: y :: z :: cs)

theorem readText_plain {c : Char} {cs : List Char} (hlow : 0x20 ≤ c.toNat) (hq : c ≠ '"')
    (hb : c ≠ '\\') :
    readText (c :: cs) = (readText cs).map fun (us, r) => (.char c :: us, r) := by
  have hlow' : ¬ c.toNat < 0x20 := by omega
  rw [readText.eq_def]
  split
  case h_1 heq => cases heq
  case h_2 heq =>
    cases heq
    exact absurd rfl hq
  case h_3 heq =>
    cases heq
    exact absurd rfl hb
  case h_4 heq =>
    cases heq
    exact absurd rfl hb
  case h_5 heq =>
    cases heq
    simp [hlow', hb]

theorem readText_escape {e c : Char} {cs : List Char} (he : escape? e = some c) :
    readText ('\\' :: e :: cs) = (readText cs).map fun (us, r) => (.char c :: us, r) := by
  have hu : e ≠ 'u' := by
    rintro rfl
    cases he
  rw [readText.eq_def]
  split
  case h_1 heq => cases heq
  case h_2 heq => cases heq
  case h_3 heq =>
    cases heq
    exact absurd rfl hu
  case h_4 heq =>
    cases heq
    simp [he]
  case h_5 hno heq =>
    cases heq
    exact absurd rfl (hno _ _ rfl)

theorem readText_spelled {us : List TextUnit} {cs : List Char} (h : Spelled us cs) :
    ∀ rest : List Char, readText (cs ++ '"' :: rest) = some (us, rest) := by
  induction h with
  | nil =>
    intro rest
    rfl
  | plain hlow hq hb _ ih =>
    intro rest
    rw [List.cons_append, readText_plain hlow hq hb, ih rest]
    rfl
  | escape he _ ih =>
    intro rest
    rw [List.cons_append, List.cons_append, readText_escape he, ih rest]
    rfl
  | code hn _ ih =>
    intro rest
    simp only [List.cons_append, readText, hn, ih rest]
    rfl

/-- The string that units make up, if they make up one. -/
def stringOf (us : List TextUnit) : Option String := (joinUnits us).map String.ofList

theorem readString_spelled {us : List TextUnit} {cs : List Char} (h : Spelled us cs)
    (rest : List Char) : readString (cs ++ '"' :: rest) = some (stringOf us, rest) := by
  rw [readString, readText_spelled h rest]
  rfl

/-! ## Numbers -/

/-- One digit or more. -/
def Digits (ds : List Char) : Prop := ds ≠ [] ∧ ∀ d ∈ ds, isDigit d = true

/-- Digits before the point: a zero that comes first stands alone. -/
def Whole (ds : List Char) : Prop := Digits ds ∧ (ds.head? = some '0' → ds.length = 1)

/-- What may stand after the whole digits, and whether there is anything. -/
inductive Fraction : Bool → List Char → Prop where
  | absent : Fraction false []
  | point {ds : List Char} : Digits ds → Fraction true ('.' :: ds)

inductive Exponent : Bool → List Char → Prop where
  | absent : Exponent false []
  | power {e : Char} {sign ds : List Char} : e = 'e' ∨ e = 'E' →
      sign = [] ∨ sign = ['+'] ∨ sign = ['-'] → Digits ds → Exponent true (e :: (sign ++ ds))

/-- What follows does not begin with a digit. -/
def NoDigit (rest : List Char) : Prop := ∀ c ∈ rest.head?, isDigit c = false

/-- What follows does not go on with a number. -/
def Ends (rest : List Char) : Prop :=
  ∀ c ∈ rest.head?, isDigit c = false ∧ c ≠ '.' ∧ c ≠ 'e' ∧ c ≠ 'E'

theorem Ends.noDigit {rest : List Char} (h : Ends rest) : NoDigit rest := by
  intro c hc
  exact (h c hc).1

theorem span_digits {ds rest : List Char} (hd : ∀ d ∈ ds, isDigit d = true) (hr : NoDigit rest) :
    (ds ++ rest).takeWhile isDigit = ds ∧ (ds ++ rest).dropWhile isDigit = rest := by
  have hstop : rest.takeWhile isDigit = [] ∧ rest.dropWhile isDigit = rest := by
    cases rest with
    | nil => exact ⟨rfl, rfl⟩
    | cons c rest =>
      have hc : isDigit c = false := hr c rfl
      simp [hc]
  rw [List.takeWhile_append_of_pos hd, List.dropWhile_append_of_pos hd, hstop.1, hstop.2]
  exact ⟨List.append_nil ds, rfl⟩

theorem Digits.exists_cons {ds : List Char} (h : Digits ds) :
    ∃ d ds', ds = d :: ds' ∧ isDigit d = true ∧ ∀ x ∈ ds', isDigit x = true := by
  obtain ⟨hne, hall⟩ := h
  obtain ⟨d, ds', rfl⟩ := List.exists_cons_of_ne_nil hne
  refine ⟨d, ds', rfl, hall d List.mem_cons_self, ?_⟩
  intro x hx
  exact hall x (List.mem_cons_of_mem d hx)

theorem skipFraction_append {f : Bool} {fs tail : List Char} (h : Fraction f fs)
    (hr : NoDigit tail) (hp : tail.head? ≠ some '.') :
    skipFraction (fs ++ tail) = some (f, tail) := by
  cases h with
  | absent =>
    rw [List.nil_append, skipFraction.eq_def]
    split <;> simp_all
  | point hd =>
    obtain ⟨d, ds, rfl, hdig, hall⟩ := hd.exists_cons
    simp only [List.cons_append, skipFraction, hdig, if_true, (span_digits hall hr).2]

theorem skipExponentDigits_append {ds rest : List Char} (hd : Digits ds) (hr : NoDigit rest) :
    skipExponentDigits (ds ++ rest) = some (true, rest) := by
  obtain ⟨d, ds, rfl, hdig, hall⟩ := hd.exists_cons
  simp only [List.cons_append, skipExponentDigits, hdig, if_true, (span_digits hall hr).2]

/-- Digits do not begin with a sign. -/
theorem Digits.head_ne_sign {ds : List Char} (h : Digits ds) :
    ds.head? ≠ some '+' ∧ ds.head? ≠ some '-' := by
  obtain ⟨d, ds, rfl, hdig, -⟩ := h.exists_cons
  constructor <;>
  · intro heq
    cases heq
    revert hdig
    decide

theorem skipExponent_append {x : Bool} {xs rest : List Char} (h : Exponent x xs) (hr : Ends rest) :
    skipExponent (xs ++ rest) = some (x, rest) := by
  cases h with
  | absent =>
    rw [List.nil_append, skipExponent.eq_def]
    split
    · exact absurd rfl (hr _ rfl).2.2.1
    · exact absurd rfl (hr _ rfl).2.2.2
    · rfl
  | @power e sign ds he hs hd =>
    have hskip : skipExponent (e :: (sign ++ ds) ++ rest) =
        skipExponentDigits (ds ++ rest) := by
      obtain ⟨hplus, hminus⟩ := hd.head_ne_sign
      obtain ⟨d, ds, rfl, -, -⟩ := hd.exists_cons
      have hp : d ≠ '+' := fun h => hplus (by rw [h]; rfl)
      have hm : d ≠ '-' := fun h => hminus (by rw [h]; rfl)
      rcases he with rfl | rfl <;> rcases hs with rfl | rfl | rfl <;>
        simp [skipExponent, hp, hm]
    rw [hskip, skipExponentDigits_append hd hr.noDigit]

theorem readNumeral_append {negative f x : Bool} {ds fs xs rest : List Char} (hw : Whole ds)
    (hf : Fraction f fs) (hx : Exponent x xs) (hr : Ends rest) :
    readNumeral negative (ds ++ (fs ++ (xs ++ rest))) =
      some (⟨negative, digitsValue ds, !f && !x⟩, rest) := by
  obtain ⟨⟨hne, hall⟩, hzero⟩ := hw
  have hxs : NoDigit (xs ++ rest) ∧ (xs ++ rest).head? ≠ some '.' := by
    cases hx with
    | absent =>
      refine ⟨hr.noDigit, ?_⟩
      intro hp
      exact (hr _ hp).2.1 rfl
    | power he _ _ =>
      rcases he with rfl | rfl <;> exact ⟨by rintro c ⟨⟩; rfl, by rintro ⟨⟩⟩
  have hfs : NoDigit (fs ++ (xs ++ rest)) := by
    cases hf with
    | absent => exact hxs.1
    | point _ =>
      rintro c ⟨⟩
      rfl
  obtain ⟨htake, hdrop⟩ := span_digits hall hfs
  have hlead : (ds.isEmpty || (ds.head? == some '0' && decide (1 < ds.length))) = false := by
    rw [Bool.or_eq_false_iff, List.isEmpty_eq_false_iff]
    refine ⟨hne, ?_⟩
    by_cases h0 : ds.head? = some '0'
    · simp [hzero h0]
    · simp [h0]
  simp only [readNumeral, htake, hdrop, hlead, Bool.false_eq_true, if_false,
    skipFraction_append hf hxs.1 hxs.2, Option.bind_eq_bind, Option.bind_some,
    skipExponent_append hx hr]
  rfl

/-! ## Values -/

/-- What a stretch of text stands for. -/
inductive Phrase where
  | value (v : Json)
  /-- the items of an array, up to its closing bracket -/
  | items (vs : List Json)
  /-- the members of an object, up to its closing brace -/
  | members (ms : List (Option String × Json))

inductive Written : Phrase → List Char → Prop where
  | null : Written (.value .null) ['n', 'u', 'l', 'l']
  | yes : Written (.value (.bool true)) ['t', 'r', 'u', 'e']
  | no : Written (.value (.bool false)) ['f', 'a', 'l', 's', 'e']
  | number {f x : Bool} {ds fs xs : List Char} : Whole ds → Fraction f fs → Exponent x xs →
      Written (.value (.number ⟨false, digitsValue ds, !f && !x⟩)) (ds ++ (fs ++ xs))
  | negative {f x : Bool} {ds fs xs : List Char} : Whole ds → Fraction f fs → Exponent x xs →
      Written (.value (.number ⟨true, digitsValue ds, !f && !x⟩)) ('-' :: (ds ++ (fs ++ xs)))
  | text {us : List TextUnit} {cs : List Char} : Spelled us cs →
      Written (.value (.text (stringOf us))) ('"' :: (cs ++ ['"']))
  | noItems {b : List Char} : Blank b → Written (.value (.array [])) ('[' :: (b ++ [']']))
  | array {vs : List Json} {cs : List Char} : Written (.items vs) cs →
      Written (.value (.array vs)) ('[' :: cs)
  | lastItem {v : Json} {b cs b₁ : List Char} : Blank b → Written (.value v) cs → Blank b₁ →
      Written (.items [v]) (b ++ (cs ++ (b₁ ++ [']'])))
  | item {v : Json} {vs : List Json} {b cs b₁ rest : List Char} : Blank b →
      Written (.value v) cs → Blank b₁ → Written (.items vs) rest →
      Written (.items (v :: vs)) (b ++ (cs ++ (b₁ ++ ',' :: rest)))
  | noMembers {b : List Char} : Blank b →
      Written (.value (.object [])) ('\x7b' :: (b ++ ['\x7d']))
  | object {ms : List (Option String × Json)} {cs : List Char} : Written (.members ms) cs →
      Written (.value (.object ms)) ('\x7b' :: cs)
  | lastMember {us : List TextUnit} {v : Json} {b key b₁ b₂ cs b₃ : List Char} : Blank b →
      Spelled us key → Blank b₁ → Blank b₂ → Written (.value v) cs → Blank b₃ →
      Written (.members [(stringOf us, v)])
        (b ++ '"' :: (key ++ '"' :: (b₁ ++ ':' :: (b₂ ++ (cs ++ (b₃ ++ ['\x7d']))))))
  | member {us : List TextUnit} {v : Json} {ms : List (Option String × Json)}
      {b key b₁ b₂ cs b₃ rest : List Char} : Blank b →
      Spelled us key → Blank b₁ → Blank b₂ → Written (.value v) cs → Blank b₃ →
      Written (.members ms) rest →
      Written (.members ((stringOf us, v) :: ms))
        (b ++ '"' :: (key ++ '"' :: (b₁ ++ ':' :: (b₂ ++ (cs ++ (b₃ ++ ',' :: rest))))))

/-- A whole text that stands for the value. -/
def IsText (v : Json) (text : List Char) : Prop :=
  ∃ b cs b₁, Blank b ∧ Written (.value v) cs ∧ Blank b₁ ∧ text = b ++ (cs ++ b₁)

/-! ## Reading -/

theorem not_isBlank_of_isDigit {d : Char} (h : isDigit d = true) : isBlank d = false := by
  rw [Bool.eq_false_iff]
  intro hb
  simp only [isBlank, Bool.or_eq_true, beq_iff_eq] at hb
  rcases hb with ((rfl | rfl) | rfl) | rfl <;> revert h <;> decide

theorem ends_nil : Ends [] := by
  rintro c ⟨⟩

theorem ends_comma (rest : List Char) : Ends (',' :: rest) := by
  rintro c ⟨⟩
  decide

theorem ends_bracket (rest : List Char) : Ends (']' :: rest) := by
  rintro c ⟨⟩
  decide

theorem ends_brace (rest : List Char) : Ends ('\x7d' :: rest) := by
  rintro c ⟨⟩
  decide

theorem Ends.after_blank {b rest : List Char} (hb : Blank b) (hr : Ends rest) :
    Ends (b ++ rest) := by
  cases b with
  | nil => exact hr
  | cons c b =>
    rintro c' ⟨⟩
    have hc : isBlank c = true := hb c List.mem_cons_self
    simp only [isBlank, Bool.or_eq_true, beq_iff_eq] at hc
    rcases hc with ((rfl | rfl) | rfl) | rfl <;> decide

theorem readValue_after_blank {b : List Char} (hb : Blank b) (fuel : Nat) (cs : List Char) :
    readValue fuel (b ++ cs) = readValue fuel cs := by
  cases fuel with
  | zero => rfl
  | succ n => rw [readValue, readValue, skipBlank_append hb]

theorem readMembers_after_blank {b : List Char} (hb : Blank b) (fuel : Nat) (cs : List Char) :
    readMembers fuel (b ++ cs) = readMembers fuel cs := by
  cases fuel with
  | zero => rfl
  | succ n => rw [readMembers, readMembers, skipBlank_append hb]

theorem readValue_digit {d : Char} (hd : isDigit d = true) (fuel : Nat) (cs : List Char) :
    readValue (fuel + 1) (d :: cs) =
      (readNumeral false (d :: cs)).map fun (n, rest) => (.number n, rest) := by
  rw [readValue, skipBlank_cons (not_isBlank_of_isDigit hd)]
  split
  case h_8 => rfl
  all_goals
    rename_i heq
    cases heq
    exact absurd hd (by decide)

/-- No item begins with the closing bracket. -/
theorem readItems_of_close {cs rest : List Char} (h : skipBlank cs = ']' :: rest) (fuel : Nat) :
    readItems fuel cs = none := by
  cases fuel with
  | zero => rfl
  | succ n =>
    have hv : readValue n cs = none := by
      cases n with
      | zero => rfl
      | succ m =>
        rw [readValue, h]
        rfl
    rw [readItems, hv]
    rfl

theorem readMembers_of_close {cs rest : List Char} (h : skipBlank cs = '\x7d' :: rest)
    (fuel : Nat) : readMembers fuel cs = none := by
  cases fuel with
  | zero => rfl
  | succ n =>
    rw [readMembers, h]
    rfl

section Arms

variable {n : Nat} {v : Json} {vs : List Json} {ms : List (Option String × Json)}
  {us : List TextUnit} {b b₁ b₂ b₃ cs key rest : List Char}

theorem readValue_minus (cs : List Char) : readValue (n + 1) ('-' :: cs) =
    (readNumeral true cs).map fun (n, rest) => (.number n, rest) := rfl

theorem readValue_quote (cs : List Char) : readValue (n + 1) ('"' :: cs) =
    (readString cs).map fun (s, rest) => (.text s, rest) := rfl

theorem readValue_noItems (hb : Blank b) :
    readValue (n + 1) ('[' :: (b ++ ']' :: rest)) = some (.array [], rest) := by
  have hclose : skipBlank (b ++ ']' :: rest) = ']' :: rest := skipBlank_append hb _
  rw [readValue, skipBlank_cons (by decide)]
  simp only [hclose]

theorem readValue_array (h : readItems n cs = some (vs, rest)) :
    readValue (n + 1) ('[' :: cs) = some (.array vs, rest) := by
  have hopen : ∀ rest, skipBlank cs ≠ ']' :: rest := by
    intro rest hclose
    rw [readItems_of_close hclose] at h
    cases h
  rw [readValue, skipBlank_cons (by decide)]
  simp only [h, Option.map_some]

theorem readValue_noMembers (hb : Blank b) :
    readValue (n + 1) ('\x7b' :: (b ++ '\x7d' :: rest)) = some (.object [], rest) := by
  have hclose : skipBlank (b ++ '\x7d' :: rest) = '\x7d' :: rest := skipBlank_append hb _
  rw [readValue, skipBlank_cons (by decide)]
  simp only [hclose]

theorem readValue_object (h : readMembers n cs = some (ms, rest)) :
    readValue (n + 1) ('\x7b' :: cs) = some (.object ms, rest) := by
  have hopen : ∀ rest, skipBlank cs ≠ '\x7d' :: rest := by
    intro rest hclose
    rw [readMembers_of_close hclose] at h
    cases h
  rw [readValue, skipBlank_cons (by decide)]
  simp only [h, Option.map_some]

theorem readItems_last (hb₁ : Blank b₁)
    (hv : readValue n cs = some (v, b₁ ++ ']' :: rest)) :
    readItems (n + 1) cs = some ([v], rest) := by
  have hclose : skipBlank (b₁ ++ ']' :: rest) = ']' :: rest := skipBlank_append hb₁ _
  simp only [readItems, hv, Option.bind_eq_bind, Option.bind_some, hclose]
  rfl

theorem readItems_more {more : List Char} (hb₁ : Blank b₁)
    (hv : readValue n cs = some (v, b₁ ++ ',' :: more))
    (hvs : readItems n more = some (vs, rest)) :
    readItems (n + 1) cs = some (v :: vs, rest) := by
  have hcomma : skipBlank (b₁ ++ ',' :: more) = ',' :: more := skipBlank_append hb₁ _
  simp only [readItems, hv, Option.bind_eq_bind, Option.bind_some, hcomma, hvs]
  rfl

theorem readMembers_last (hs : Spelled us key) (hb₁ : Blank b₁) (hb₃ : Blank b₃)
    (hv : readValue n cs = some (v, b₃ ++ '\x7d' :: rest)) :
    readMembers (n + 1) ('"' :: (key ++ '"' :: (b₁ ++ ':' :: cs))) =
      some ([(stringOf us, v)], rest) := by
  have hcolon : skipBlank (b₁ ++ ':' :: cs) = ':' :: cs := skipBlank_append hb₁ _
  have hclose : skipBlank (b₃ ++ '\x7d' :: rest) = '\x7d' :: rest := skipBlank_append hb₃ _
  rw [readMembers, skipBlank_cons (by decide)]
  simp only [readString_spelled hs, hcolon, hv, Option.bind_eq_bind, Option.bind_some, hclose]
  rfl

theorem readMembers_more {more : List Char} (hs : Spelled us key) (hb₁ : Blank b₁)
    (hb₃ : Blank b₃) (hv : readValue n cs = some (v, b₃ ++ ',' :: more))
    (hms : readMembers n more = some (ms, rest)) :
    readMembers (n + 1) ('"' :: (key ++ '"' :: (b₁ ++ ':' :: cs))) =
      some ((stringOf us, v) :: ms, rest) := by
  have hcolon : skipBlank (b₁ ++ ':' :: cs) = ':' :: cs := skipBlank_append hb₁ _
  have hcomma : skipBlank (b₃ ++ ',' :: more) = ',' :: more := skipBlank_append hb₃ _
  rw [readMembers, skipBlank_cons (by decide)]
  simp only [readString_spelled hs, hcolon, hv, Option.bind_eq_bind, Option.bind_some, hcomma, hms]
  rfl

end Arms

/-- The reader takes the text for the phrase, whatever follows that does not go on with it. Each
level of nesting and each item costs fuel, and no more than its characters allow. -/
def Phrase.IsRead : Phrase → List Char → Prop
  | .value v, cs => ∀ fuel rest, 2 * cs.length ≤ fuel → Ends rest →
      readValue fuel (cs ++ rest) = some (v, rest)
  | .items vs, cs => ∀ fuel rest, 2 * cs.length ≤ fuel →
      readItems fuel (cs ++ rest) = some (vs, rest)
  | .members ms, cs => ∀ fuel rest, 2 * cs.length ≤ fuel →
      readMembers fuel (cs ++ rest) = some (ms, rest)

theorem exists_fuel {c : Char} {cs : List Char} {fuel : Nat} (h : 2 * (c :: cs).length ≤ fuel) :
    ∃ n, fuel = n + 1 ∧ 2 * cs.length ≤ n := by
  rw [List.length_cons] at h
  exact ⟨fuel - 1, by omega, by omega⟩

theorem Written.isRead {p : Phrase} {text : List Char} (h : Written p text) : p.IsRead text := by
  induction h with
  | null | yes | no =>
    intro fuel rest hf _
    obtain ⟨n, rfl, -⟩ := exists_fuel hf
    rfl
  | @number f x ds fs xs hw hfs hxs =>
    intro fuel rest hf hr
    obtain ⟨d, ds', rfl, hd, -⟩ := hw.1.exists_cons
    obtain ⟨n, rfl, -⟩ := exists_fuel hf
    rw [List.append_assoc, List.append_assoc, List.cons_append, readValue_digit hd,
      ← List.cons_append, readNumeral_append hw hfs hxs hr]
    rfl
  | negative hw hfs hxs =>
    intro fuel rest hf hr
    obtain ⟨n, rfl, -⟩ := exists_fuel hf
    rw [List.cons_append, List.append_assoc, List.append_assoc, readValue_minus,
      readNumeral_append hw hfs hxs hr]
    rfl
  | text hs =>
    intro fuel rest hf _
    obtain ⟨n, rfl, -⟩ := exists_fuel hf
    rw [List.cons_append, List.append_assoc, List.singleton_append, readValue_quote,
      readString_spelled hs rest]
    rfl
  | noItems hb =>
    intro fuel rest hf _
    obtain ⟨n, rfl, -⟩ := exists_fuel hf
    rw [List.cons_append, List.append_assoc, List.singleton_append, readValue_noItems hb]
  | array _ ih =>
    intro fuel rest hf _
    obtain ⟨n, rfl, hn⟩ := exists_fuel hf
    exact readValue_array (ih n rest hn)
  | @lastItem v b cs b₁ hb _ hb₁ ih =>
    intro fuel rest hf
    simp only [List.length_append, List.length_singleton] at hf
    obtain ⟨n, rfl⟩ : ∃ n, fuel = n + 1 := ⟨fuel - 1, by omega⟩
    have hv : readValue n (b ++ (cs ++ (b₁ ++ ']' :: rest))) = some (v, b₁ ++ ']' :: rest) := by
      rw [readValue_after_blank hb]
      exact ih n _ (by omega) ((ends_bracket rest).after_blank hb₁)
    simp only [List.append_assoc, List.singleton_append]
    exact readItems_last hb₁ hv
  | @item v vs b cs b₁ more hb _ hb₁ _ ih ihs =>
    intro fuel rest hf
    simp only [List.length_append, List.length_cons] at hf
    obtain ⟨n, rfl⟩ : ∃ n, fuel = n + 1 := ⟨fuel - 1, by omega⟩
    have hv : readValue n (b ++ (cs ++ (b₁ ++ ',' :: (more ++ rest)))) =
        some (v, b₁ ++ ',' :: (more ++ rest)) := by
      rw [readValue_after_blank hb]
      exact ih n _ (by omega) ((ends_comma _).after_blank hb₁)
    simp only [List.append_assoc, List.cons_append]
    exact readItems_more hb₁ hv (ihs n rest (by omega))
  | noMembers hb =>
    intro fuel rest hf _
    obtain ⟨n, rfl, -⟩ := exists_fuel hf
    rw [List.cons_append, List.append_assoc, List.singleton_append, readValue_noMembers hb]
  | object _ ih =>
    intro fuel rest hf _
    obtain ⟨n, rfl, hn⟩ := exists_fuel hf
    exact readValue_object (ih n rest hn)
  | @lastMember us v b key b₁ b₂ cs b₃ hb hs hb₁ hb₂ _ hb₃ ih =>
    intro fuel rest hf
    simp only [List.length_append, List.length_cons, List.length_nil] at hf
    obtain ⟨n, rfl⟩ : ∃ n, fuel = n + 1 := ⟨fuel - 1, by omega⟩
    have hv : readValue n (b₂ ++ (cs ++ (b₃ ++ '\x7d' :: rest))) =
        some (v, b₃ ++ '\x7d' :: rest) := by
      rw [readValue_after_blank hb₂]
      exact ih n _ (by omega) ((ends_brace rest).after_blank hb₃)
    simp only [List.append_assoc, List.cons_append, List.nil_append]
    rw [readMembers_after_blank hb]
    exact readMembers_last hs hb₁ hb₃ hv
  | @member us v ms b key b₁ b₂ cs b₃ more hb hs hb₁ hb₂ _ hb₃ _ ih ihs =>
    intro fuel rest hf
    simp only [List.length_append, List.length_cons] at hf
    obtain ⟨n, rfl⟩ : ∃ n, fuel = n + 1 := ⟨fuel - 1, by omega⟩
    have hv : readValue n (b₂ ++ (cs ++ (b₃ ++ ',' :: (more ++ rest)))) =
        some (v, b₃ ++ ',' :: (more ++ rest)) := by
      rw [readValue_after_blank hb₂]
      exact ih n _ (by omega) ((ends_comma _).after_blank hb₃)
    simp only [List.append_assoc, List.cons_append]
    rw [readMembers_after_blank hb]
    exact readMembers_more hs hb₁ hb₃ hv (ihs n rest (by omega))

/-- A text is read as what it stands for. -/
theorem parse?_of_isText {v : Json} {text : List Char} (h : IsText v text) :
    parse? text = some v := by
  obtain ⟨b, cs, b₁, hb, hv, hb₁, rfl⟩ := h
  have hend : Ends b₁ := by
    have := ends_nil.after_blank hb₁
    rwa [List.append_nil] at this
  have hread : readValue (2 * (b ++ (cs ++ b₁)).length + 2) (b ++ (cs ++ b₁)) = some (v, b₁) := by
    rw [readValue_after_blank hb]
    exact hv.isRead _ b₁ (by simp only [List.length_append]; omega) hend
  rw [parse?, hread]
  simp [skipBlank_of_blank hb₁]

end EdgeGateway.Json
