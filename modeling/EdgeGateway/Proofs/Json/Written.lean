import EdgeGateway.Json.Writer
import EdgeGateway.Proofs.Json.Grammar

/-!
# EdgeGateway.Proofs.Json.Written

What is written for a value is a text of that value, so reading it gives the value back.

* `Json.exists_spelled` : an escaped string spells units that make up the string again.
* `Json.whole_toDigits` : the decimal digits of a number, and their value.
* `Json.written_write`  : every value, at every depth.
-/

namespace EdgeGateway.Json

/-! ## Strings -/

theorem hexQuad?_low : ∀ n < 0x20,
    hexQuad? '0' '0' (hexDigit (n / 16)) (hexDigit (n % 16)) = some n := by
  decide

theorem joinUnits_code {n : Nat} (hh : isHighSurrogate n = false) (hl : isLowSurrogate n = false)
    (us : List TextUnit) :
    joinUnits (.code n :: us) = (joinUnits us).map (Char.ofNat n :: ·) := by
  cases us with
  | nil => simp [joinUnits, hh, hl]
  | cons u us =>
    cases u with
    | char c => cases hus : joinUnits us <;> simp [joinUnits, hh, hl, hus]
    | code m => simp [joinUnits, hh, hl]

/-- What is written for a character spells a unit that stands for it. -/
theorem exists_unit (c : Char) : ∃ u : TextUnit,
    (∀ us cs, Spelled us cs → Spelled (u :: us) (escapeChar c ++ cs)) ∧
      ∀ us, joinUnits (u :: us) = (joinUnits us).map (c :: ·) := by
  -- the short escapes come first; whatever they do not name is a control character or plain
  by_cases hq : c = '"'
  · subst hq
    exact ⟨.char '"', fun us cs h => .escape rfl h, fun us => rfl⟩
  by_cases hb : c = '\\'
  · subst hb
    exact ⟨.char '\\', fun us cs h => .escape rfl h, fun us => rfl⟩
  by_cases hn : c = '\n'
  · subst hn
    exact ⟨.char '\n', fun us cs h => .escape rfl h, fun us => rfl⟩
  by_cases hr : c = '\r'
  · subst hr
    exact ⟨.char '\r', fun us cs h => .escape rfl h, fun us => rfl⟩
  by_cases ht : c = '\t'
  · subst ht
    exact ⟨.char '\t', fun us cs h => .escape rfl h, fun us => rfl⟩
  by_cases h8 : c = Char.ofNat 8
  · subst h8
    exact ⟨.char (Char.ofNat 8), fun us cs h => .escape rfl h, fun us => rfl⟩
  by_cases h12 : c = Char.ofNat 12
  · subst h12
    exact ⟨.char (Char.ofNat 12), fun us cs h => .escape rfl h, fun us => rfl⟩
  by_cases hlow : c.toNat < 0x20
  · have hh : isHighSurrogate c.toNat = false := by
      simp only [isHighSurrogate, Bool.and_eq_false_iff, decide_eq_false_iff_not]
      omega
    have hl : isLowSurrogate c.toNat = false := by
      simp only [isLowSurrogate, Bool.and_eq_false_iff, decide_eq_false_iff_not]
      omega
    refine ⟨.code c.toNat, ?_, ?_⟩
    · intro us cs h
      simp only [escapeChar, hq, hb, hn, hr, ht, h8, h12, hlow, if_false, if_true]
      exact .code (hexQuad?_low _ hlow) h
    · intro us
      rw [joinUnits_code hh hl, Char.ofNat_toNat]
  · refine ⟨.char c, ?_, fun us => rfl⟩
    intro us cs h
    simp only [escapeChar, hq, hb, hn, hr, ht, h8, h12, hlow, if_false]
    exact .plain (by omega) hq hb h

theorem exists_spelled_chars (cs : List Char) :
    ∃ us, Spelled us (cs.flatMap escapeChar) ∧ joinUnits us = some cs := by
  induction cs with
  | nil => exact ⟨[], .nil, rfl⟩
  | cons c cs ih =>
    obtain ⟨us, hs, hj⟩ := ih
    obtain ⟨u, hspell, hjoin⟩ := exists_unit c
    refine ⟨u :: us, hspell us _ hs, ?_⟩
    rw [hjoin, hj, Option.map_some]

/-- Written text between its quotes. -/
theorem exists_spelled (s : Option String) :
    ∃ us cs, Spelled us cs ∧ stringOf us = s ∧ writeText s = '"' :: (cs ++ ['"']) := by
  cases s with
  | none => exact ⟨[.code 0xd800], ['\\', 'u', 'd', '8', '0', '0'], .code rfl .nil, rfl, rfl⟩
  | some s =>
    obtain ⟨us, hs, hj⟩ := exists_spelled_chars s.toList
    refine ⟨us, s.toList.flatMap escapeChar, hs, ?_, rfl⟩
    rw [stringOf, hj, Option.map_some, String.ofList_toList]

/-! ## Numbers -/

theorem isDigit_of_mem_toDigits {n : Nat} {d : Char} (h : d ∈ Nat.toDigits 10 n) :
    isDigit d = true := by
  have hd : d.isDigit = true := Nat.isDigit_of_mem_toDigits (by omega) (by omega) h
  simpa [isDigit, Char.isDigit, Char.le_def] using hd

theorem eq_zero_of_digitChar : ∀ n < 10, Nat.digitChar n = '0' → n = 0 := by
  decide

theorem eq_zero_of_head?_toDigits (n : Nat) : (Nat.toDigits 10 n).head? = some '0' → n = 0 := by
  induction n using Nat.strongRecOn with
  | ind n ih =>
    intro hhead
    by_cases hlt : n < 10
    · rw [Nat.toDigits_of_lt_base hlt] at hhead
      exact eq_zero_of_digitChar n hlt (Option.some.inj hhead)
    · obtain ⟨d, ds, hds⟩ :=
        List.exists_cons_of_ne_nil (Nat.toDigits_ne_nil (n := n / 10) (b := 10))
      rw [Nat.toDigits_of_base_le (by omega) (by omega), hds] at hhead
      have hzero : n / 10 = 0 := ih (n / 10) (by omega) (by rw [hds]; exact hhead)
      omega

theorem whole_toDigits (n : Nat) : Whole (Nat.toDigits 10 n) := by
  refine ⟨⟨Nat.toDigits_ne_nil, fun d hd => isDigit_of_mem_toDigits hd⟩, ?_⟩
  intro hhead
  rw [eq_zero_of_head?_toDigits n hhead]
  rfl

theorem digitsValue_toDigits (n : Nat) : digitsValue (Nat.toDigits 10 n) = n :=
  Nat.ofDigitChars_toDigits (by omega) (by omega)

theorem written_writeNumeral (n : Numeral) : Written (.value (.number n)) (writeNumeral n) := by
  obtain ⟨negative, whole, plain⟩ := n
  have hw := whole_toDigits whole
  have hzero : Digits ['0'] := ⟨List.cons_ne_nil _ _, List.forall_mem_singleton.mpr rfl⟩
  have hpoint : Fraction true ['.', '0'] := .point hzero
  have hvalue := digitsValue_toDigits whole
  cases negative <;> cases plain
  · have h := Written.number hw hpoint .absent
    rw [hvalue] at h
    exact h
  · have h := Written.number hw .absent .absent
    rw [hvalue] at h
    exact h
  · have h := Written.negative hw hpoint .absent
    rw [hvalue] at h
    exact h
  · have h := Written.negative hw .absent .absent
    rw [hvalue] at h
    exact h

/-! ## Values -/

theorem blank_newLine (depth : Nat) : Blank (newLine depth) := by
  intro c hc
  rcases List.mem_cons.1 hc with rfl | hc
  · rfl
  · rw [List.eq_of_mem_replicate hc]
    rfl

theorem blank_space : Blank [' '] := by
  intro c hc
  rw [List.mem_singleton.1 hc]
  rfl

mutual

theorem written_write : ∀ (v : Json) (depth : Nat), Written (.value v) (write depth v)
  | .null, _ => .null
  | .bool true, _ => .yes
  | .bool false, _ => .no
  | .number n, _ => written_writeNumeral n
  | .text s, _ => by
    obtain ⟨us, cs, hs, rfl, hw⟩ := exists_spelled s
    rw [write, hw]
    exact .text hs
  | .array [], _ => .noItems Blank.nil
  | .array (v :: vs), depth => by
    have h := Written.array (written_writeItems (v :: vs) (by simp) (depth + 1) depth)
    simpa [write] using h
  | .object [], _ => .noMembers Blank.nil
  | .object (m :: ms), depth => by
    have h := Written.object (written_writeMembers (m :: ms) (by simp) (depth + 1) depth)
    simpa [write] using h

theorem written_writeItems : ∀ vs : List Json, vs ≠ [] → ∀ depth depth' : Nat,
    Written (.items vs) (writeItems depth vs ++ (newLine depth' ++ [']']))
  | [], hne, _, _ => absurd rfl hne
  | [v], _, depth, depth' => by
    have h := Written.lastItem (blank_newLine depth) (written_write v depth) (blank_newLine depth')
    simpa [writeItems, comma] using h
  | v :: w :: vs, _, depth, depth' => by
    have h := Written.item (blank_newLine depth) (written_write v depth) Blank.nil
      (written_writeItems (w :: vs) (by simp) depth depth')
    simpa [writeItems, comma] using h

theorem written_writeMembers : ∀ ms : List (Option String × Json), ms ≠ [] →
    ∀ depth depth' : Nat,
      Written (.members ms) (writeMembers depth ms ++ (newLine depth' ++ ['\x7d']))
  | [], hne, _, _ => absurd rfl hne
  | [(key, v)], _, depth, depth' => by
    obtain ⟨us, cs, hs, rfl, hw⟩ := exists_spelled key
    have h := Written.lastMember (blank_newLine depth) hs Blank.nil blank_space
      (written_write v depth) (blank_newLine depth')
    simpa [writeMembers, comma, hw] using h
  | (key, v) :: m :: ms, _, depth, depth' => by
    obtain ⟨us, cs, hs, rfl, hw⟩ := exists_spelled key
    have h := Written.member (blank_newLine depth) hs Blank.nil blank_space
      (written_write v depth) Blank.nil (written_writeMembers (m :: ms) (by simp) depth depth')
    simpa [writeMembers, comma, hw] using h

end

theorem isText_render (v : Json) : IsText v v.render.toList := by
  refine ⟨[], write 0 v, [], Blank.nil, written_write v 0, Blank.nil, ?_⟩
  rw [render, String.toList_ofList, List.append_nil, List.nil_append]

end EdgeGateway.Json
