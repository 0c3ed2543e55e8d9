import Caseflow.Json.Text
import Caseflow.Json.Reading
import Caseflow.Proofs.Json.Number

/-!
# Compact texts are unambiguous

The first character of a text tells the kind of the document, a quoted string is read back up to its
closing quote, a number goes on as far as there are characters of numbers, and arrays and objects
end with their bracket. So a document can be told from its text, also where more text follows.
-/
namespace Caseflow.Json

variable {v w : Json} {s t : String} {r u : List Char} {c : Char} {cs : List Char}

theorem hexValue?_hexDigit : ∀ n < 16, hexValue? (hexDigit n) = some n := by decide

theorem readStringBody?_escapeChar (fuel : Nat) (acc : List Char) (c : Char) (cs : List Char) :
    readStringBody? (fuel + 1) acc (escapeChar c ++ cs) = readStringBody? fuel (c :: acc) cs := by
  unfold escapeChar
  split
  · rfl
  · rfl
  · rfl
  · rfl
  · rfl
  · rfl
  · rfl
  · rename_i hquote hslash _ _ _ _ _
    split
    · rename_i hcontrol
      have hhigh := hexValue?_hexDigit (c.toNat / 16) (by omega)
      have hlow := hexValue?_hexDigit (c.toNat % 16) (by omega)
      have hzero : hexValue? '0' = some 0 := by decide
      have hvalue : ((0 * 16 + 0) * 16 + c.toNat / 16) * 16 + c.toNat % 16 = c.toNat := by omega
      have hread : readUnicodeEscape?
          ('0' :: '0' :: hexDigit (c.toNat / 16) :: hexDigit (c.toNat % 16) :: cs) =
          some (c, cs) := by
        simp only [readUnicodeEscape?, readHex4?, hzero, hhigh, hlow, hvalue, Char.ofNat_toNat]
        rw [if_neg (by omega), if_neg (by omega)]
      simp only [List.cons_append, List.nil_append, readStringBody?, hread]
    · rename_i hplain
      rw [List.singleton_append, readStringBody?]
      · rw [if_neg (by simp_all)]
      · exact hquote
      · intro _ hc
        exact absurd hc hslash
      · intro _ _ hc
        exact absurd hc hslash

theorem readStringBody?_quoted (fuel : Nat) (acc cs r : List Char)
    (hfuel : (cs.flatMap escapeChar).length < fuel) :
    readStringBody? fuel acc (cs.flatMap escapeChar ++ '"' :: r) =
      some (String.ofList (acc.reverse ++ cs), r) := by
  induction cs generalizing fuel acc with
  | nil =>
    cases fuel with
    | zero => cases hfuel
    | succ fuel => simp [readStringBody?]
  | cons c cs ih =>
    cases fuel with
    | zero => cases hfuel
    | succ fuel =>
      have hpos : 0 < (escapeChar c).length := by
        unfold escapeChar
        repeat' split
        all_goals simp
      rw [List.flatMap_cons, List.length_append] at hfuel
      rw [List.flatMap_cons, List.append_assoc, readStringBody?_escapeChar, ih _ _ (by omega)]
      simp

/-- A quoted string reads back, whatever follows it. -/
theorem readString?_quoteChars (s : String) (r : List Char) :
    readString? (quoteChars s ++ r) = some (s, r) := by
  have hbody : quoteChars s ++ r = '"' :: (s.toList.flatMap escapeChar ++ '"' :: r) := by
    simp [quoteChars]
  have hfuel : (s.toList.flatMap escapeChar).length <
      (s.toList.flatMap escapeChar ++ '"' :: r).length + 1 := by
    rw [List.length_append]
    omega
  rw [hbody, readString?, readStringBody?_quoted _ _ _ _ hfuel]
  simp

theorem quoteChars_append_inj (h : quoteChars s ++ r = quoteChars t ++ u) : s = t ∧ r = u := by
  have hread := readString?_quoteChars s r
  rw [h, readString?_quoteChars, Option.some.injEq, Prod.mk.injEq] at hread
  exact ⟨hread.1.symm, hread.2.symm⟩

/-- What may follow a value in a text: the end, or a character that no number is written with. -/
def Stops (r : List Char) : Prop := ∀ c ∈ r.head?, isNumeric c = false

theorem stops_cons (h : isNumeric c = false) : Stops (c :: r) := by
  rintro _ ⟨⟩
  exact h

theorem stops_itemChars (vs : List Json) : Stops (itemChars vs ++ r) := by
  cases vs with
  | nil => exact stops_cons (by decide)
  | cons v vs => exact stops_cons (by decide)

theorem stops_fieldChars (fs : Fields) : Stops (fieldChars fs ++ r) := by
  cases fs with
  | nil => exact stops_cons (by decide)
  | cons f fs => exact stops_cons (by decide)

/-- A number ends where no character of numbers follows. -/
theorem takeWhile_numeric (n : Number) (hr : Stops r) :
    (n.text.toList ++ r).takeWhile isNumeric = n.text.toList := by
  have hstop : r.takeWhile isNumeric = [] := by
    cases r with
    | nil => rfl
    | cons c r => simp [hr c rfl]
  rw [List.takeWhile_append_of_pos n.isNumeric_of_mem_text, hstop, List.append_nil]

theorem numberText_append_inj {m n : Number} (hr : Stops r) (hu : Stops u)
    (h : m.text.toList ++ r = n.text.toList ++ u) : m = n ∧ r = u := by
  have htext := takeWhile_numeric m hr
  rw [h, takeWhile_numeric n hu] at htext
  rw [htext] at h
  exact ⟨(Number.text_injective (String.toList_inj.1 htext)).symm, List.append_cancel_left h⟩

/-- The kind of the documents whose text starts with a character, if there are such. -/
def kindOfHead? (c : Char) : Option String :=
  if isNumeric c then some "number"
  else if c = 'n' then some "null"
  else if c = 't' ∨ c = 'f' then some "boolean"
  else if c = '"' then some "string"
  else if c = '[' then some "array"
  else if c = '\x7b' then some "object"
  else none

theorem kindOfHead?_chars (v : Json) (r : List Char) :
    (v.chars ++ r).head?.bind kindOfHead? = some v.kindName := by
  cases v with
  | null => rfl
  | bool b => cases b <;> rfl
  | num n =>
    have hnumeric := n.isNumeric_of_mem_text
    rw [chars]
    cases hn : n.text.toList with
    | nil => exact absurd hn n.toList_text_ne_nil
    | cons c cs =>
      rw [hn] at hnumeric
      exact if_pos (hnumeric c List.mem_cons_self)
  | str s => rfl
  | arr items => cases items <;> rfl
  | obj fields => cases fields <;> rfl

theorem kindName_eq_of_chars (h : v.chars ++ r = w.chars ++ u) : v.kindName = w.kindName := by
  have hkind := kindOfHead?_chars v r
  rw [h, kindOfHead?_chars, Option.some.injEq] at hkind
  exact hkind.symm

theorem chars_ne_bracket : v.chars ++ r ≠ ']' :: u := by
  intro h
  have hkind := kindOfHead?_chars v r
  rw [h] at hkind
  cases hkind

mutual

/-- A text that starts with a document's text and goes on with what may follow a value starts with
no other document's. -/
theorem chars_append_inj (v w : Json) {r u : List Char} (hr : Stops r) (hu : Stops u)
    (h : v.chars ++ r = w.chars ++ u) : v = w ∧ r = u := by
  have hkind := kindName_eq_of_chars h
  match v, w with
  | null, null => exact ⟨rfl, List.append_cancel_left h⟩
  | bool a, bool b =>
    cases a <;> cases b <;> simp_all [chars]
  | num m, num n =>
    obtain ⟨rfl, hrest⟩ := numberText_append_inj hr hu h
    exact ⟨rfl, hrest⟩
  | str s, str t =>
    obtain ⟨rfl, hrest⟩ := quoteChars_append_inj h
    exact ⟨rfl, hrest⟩
  | arr [], arr [] => exact ⟨rfl, List.append_cancel_left h⟩
  | arr [], arr (y :: ys) =>
    simp only [chars, List.cons_append, List.append_assoc, List.cons.injEq, true_and] at h
    exact absurd h.symm chars_ne_bracket
  | arr (x :: xs), arr [] =>
    simp only [chars, List.cons_append, List.append_assoc, List.cons.injEq, true_and] at h
    exact absurd h chars_ne_bracket
  | arr (x :: xs), arr (y :: ys) =>
    simp only [chars, List.cons_append, List.append_assoc, List.cons.injEq, true_and] at h
    obtain ⟨hx, hxs⟩ := chars_append_inj x y (stops_itemChars xs) (stops_itemChars ys) h
    obtain ⟨hxs, hrest⟩ := itemChars_append_inj xs ys hxs
    exact ⟨by rw [hx, hxs], hrest⟩
  | obj [], obj [] => exact ⟨rfl, List.append_cancel_left h⟩
  | obj [], obj ((l, y) :: gs) => simp [chars, quoteChars] at h
  | obj ((k, x) :: fs), obj [] => simp [chars, quoteChars] at h
  | obj ((k, x) :: fs), obj ((l, y) :: gs) =>
    simp only [chars, List.cons_append, List.append_assoc, List.cons.injEq, true_and] at h
    obtain ⟨hkey, h⟩ := quoteChars_append_inj h
    obtain ⟨hx, hfs⟩ := chars_append_inj x y (stops_fieldChars fs) (stops_fieldChars gs)
      (List.cons.inj h).2
    obtain ⟨hfs, hrest⟩ := fieldChars_append_inj fs gs hfs
    exact ⟨by rw [hkey, hx, hfs], hrest⟩
  | null, bool _ | null, num _ | null, str _ | null, arr _ | null, obj _
  | bool _, null | bool _, num _ | bool _, str _ | bool _, arr _ | bool _, obj _
  | num _, null | num _, bool _ | num _, str _ | num _, arr _ | num _, obj _
  | str _, null | str _, bool _ | str _, num _ | str _, arr _ | str _, obj _
  | arr _, null | arr _, bool _ | arr _, num _ | arr _, str _ | arr _, obj _
  | obj _, null | obj _, bool _ | obj _, num _ | obj _, str _ | obj _, arr _ =>
    simp [kindName] at hkind

theorem itemChars_append_inj (vs ws : List Json) {r u : List Char}
    (h : itemChars vs ++ r = itemChars ws ++ u) : vs = ws ∧ r = u := by
  match vs, ws with
  | [], [] => exact ⟨rfl, List.append_cancel_left h⟩
  | [], w :: ws => simp [itemChars] at h
  | v :: vs, [] => simp [itemChars] at h
  | v :: vs, w :: ws =>
    simp only [itemChars, List.cons_append, List.append_assoc, List.cons.injEq, true_and] at h
    obtain ⟨hv, hvs⟩ := chars_append_inj v w (stops_itemChars vs) (stops_itemChars ws) h
    obtain ⟨hvs, hrest⟩ := itemChars_append_inj vs ws hvs
    exact ⟨by rw [hv, hvs], hrest⟩

theorem fieldChars_append_inj (fs gs : Fields) {r u : List Char}
    (h : fieldChars fs ++ r = fieldChars gs ++ u) : fs = gs ∧ r = u := by
  match fs, gs with
  | [], [] => exact ⟨rfl, List.append_cancel_left h⟩
  | [], (l, y) :: gs => simp [fieldChars] at h
  | (k, x) :: fs, [] => simp [fieldChars] at h
  | (k, x) :: fs, (l, y) :: gs =>
    simp only [fieldChars, List.cons_append, List.append_assoc, List.cons.injEq, true_and] at h
    obtain ⟨hkey, h⟩ := quoteChars_append_inj h
    obtain ⟨hx, hfs⟩ := chars_append_inj x y (stops_fieldChars fs) (stops_fieldChars gs)
      (List.cons.inj h).2
    obtain ⟨hfs, hrest⟩ := fieldChars_append_inj fs gs hfs
    exact ⟨by rw [hkey, hx, hfs], hrest⟩

end

/-- A document can be told from its canonical text. -/
theorem eq_of_canonicalText (h : v.canonicalText = w.canonicalText) : v = w := by
  have hchars := congrArg String.toList h
  rw [canonicalText, canonicalText, text, text, String.toList_ofList, String.toList_ofList,
    ← List.append_nil v.chars, ← List.append_nil w.chars] at hchars
  have hend : Stops [] := by
    rintro _ ⟨⟩
  exact (chars_append_inj v w hend hend hchars).1

end Caseflow.Json
