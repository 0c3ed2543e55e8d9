import Caseflow.Proofs.Query.Locality
import Caseflow.Proofs.Query.Spelling

/-!
# Where the tokens of a query stand

A query that splits into tokens is their texts with blanks between them. What the scanner makes of
a token's text it makes of it alone as well, so nothing behind a token has a part in it but where it
would make the token longer. Blanks never do, and more of them between two tokens change nothing.
-/
namespace Caseflow.Query

open Scan

variable {c quote : Char} {cs rest : List Char} {t : Token} {n offset : Nat}

theorem takeWhile_of_append {p : Char → Bool}
    (h : ((cs ++ rest).takeWhile p).length ≤ cs.length) :
    cs.takeWhile p = (cs ++ rest).takeWhile p := by
  rw [List.takeWhile_append] at h ⊢
  split
  · rename_i hall
    rw [if_pos hall, List.length_append] at h
    have hnone : rest.takeWhile p = [] := List.eq_nil_of_length_eq_zero (by omega)
    have hsame := (List.takeWhile_prefix p (l := cs)).eq_of_length hall
    rw [hnone, List.append_nil, hsame]
  · rfl

/-- A quoted run that ends in `cs` ends there whatever follows, or nothing. -/
theorem closing_of_append (h : closing quote (cs ++ rest) = (n, .closed)) (hn : n ≤ cs.length) :
    closing quote cs = (n, .closed) := by
  fun_induction closing quote cs generalizing n with
  | case1 =>
    have hpos := (closing_append h []).1
    rw [List.length_nil] at hn
    omega
  | case2 =>
    cases rest with
    | nil => cases h
    | cons d rest =>
      rw [List.singleton_append, closing] at h
      rw [List.length_singleton] at hn
      split at h
      · cases h
      · cases hmore : closing quote rest
        rw [hmore] at h
        cases h
        omega
  | case3 =>
    rw [List.cons_append, List.cons_append, closing, if_pos rfl] at h
    cases h
  | case4 d cs hd m how hcs ih =>
    cases hmore : closing quote (cs ++ rest)
    rw [List.cons_append, List.cons_append, closing, if_neg hd, hmore] at h
    cases h
    rw [List.length_cons, List.length_cons] at hn
    cases hcs.symm.trans (ih hmore (by omega))
    rfl
  | case5 cs hlast hescape =>
    have hslash := ne_backslash hlast hescape
    rw [List.cons_append, closing_cons hslash, if_pos rfl] at h
    exact h
  | case6 c cs hlast hescape hc m how hcs ih =>
    have hslash := ne_backslash hlast hescape
    cases hmore : closing quote (cs ++ rest)
    rw [List.cons_append, closing_cons hslash, if_neg hc, hmore] at h
    cases h
    rw [List.length_cons] at hn
    cases hcs.symm.trans (ih hmore (by omega))
    rfl

theorem scanQuoted_of_append (h : scanQuoted quote (cs ++ rest) = .found t n)
    (hn : n ≤ cs.length + 1) : scanQuoted quote cs = .found t n := by
  unfold scanQuoted at h ⊢
  split at h
  · rename_i m hclosing
    split at h
    · rename_i u hquoted
      cases h
      have hclosed := closing_of_append hclosing (by omega)
      rw [List.take_append_of_le_length (by omega)] at hquoted
      simp only [hclosed, hquoted]
    · cases h
  · cases h

theorem scanInteger_of_append {negative : Bool}
    (h : scanInteger negative (cs ++ rest) = .found t n)
    (hn : n ≤ cs.length + (if negative then 1 else 0)) :
    scanInteger negative cs = .found t n := by
  have hlength := eq_of_found h
  have hdigits : cs.takeWhile Json.isDigit = (cs ++ rest).takeWhile Json.isDigit :=
    takeWhile_of_append (by omega)
  unfold scanInteger at h ⊢
  rw [hdigits]
  exact h

theorem scanName_of_append (h : scanName (cs ++ rest) c = .found t n) (hn : n ≤ cs.length) :
    scanName cs c = .found t n := by
  unfold scanName at h ⊢
  split
  · rename_i hdigit
    rw [if_pos hdigit] at h
    exact scanInteger_of_append h hn
  · rename_i hdigit
    rw [if_neg hdigit] at h
    have hname : cs.takeWhile isNameChar = (cs ++ rest).takeWhile isNameChar :=
      takeWhile_of_append (eq_of_found h ▸ hn)
    rw [hname]
    exact h

theorem pos_of_scanQuoted (h : scanQuoted quote cs = .found t n) : 0 < n := by
  unfold scanQuoted at h
  split at h
  · split at h
    · cases h
      exact Nat.succ_pos _
    · cases h
  · cases h

theorem lt_of_scanInteger {negative : Bool} (hc : Json.isDigit c = true)
    (h : scanInteger negative (c :: cs) = .found t n) : (if negative then 1 else 0) < n := by
  have hlength := eq_of_found h
  rw [List.takeWhile_cons_of_pos hc, List.length_cons] at hlength
  omega

theorem pos_of_scanName (h : scanName (c :: cs) c = .found t n) : 0 < n := by
  have hname := isNameChar_of_scanName h
  unfold scanName at h
  split at h
  · rename_i hdigit
    exact lt_of_scanInteger hdigit h
  · have hlength := eq_of_found h
    rw [List.takeWhile_cons_of_pos hname, List.length_cons] at hlength
    omega

/-- A token has at least one character. -/
theorem pos_of_scan (h : scan cs = .found t n) : 0 < n := by
  unfold scan at h
  split at h
  case h_1 => cases h
  case h_26 =>
    split at h
    · rename_i hd
      exact Nat.zero_lt_of_lt (lt_of_scanInteger hd h)
    · cases h
  case h_27 | h_28 | h_29 => exact pos_of_scanQuoted h
  case h_30 => exact pos_of_scanName h
  all_goals
    cases h
    decide

theorem exists_of_append_eq_cons {d : Char} {tail : List Char} (h : cs ++ rest = d :: tail)
    (hcs : 0 < cs.length) : ∃ ds, cs = d :: ds ∧ ds ++ rest = tail := by
  cases cs with
  | nil => cases hcs
  | cons d ds =>
    cases h
    exact ⟨ds, rfl, rfl⟩

theorem ne_of_append {d : Char} (h : ∀ r, cs ++ rest = d :: r → False) :
    ∀ r, cs = d :: r → False := by
  rintro r rfl
  exact h (r ++ rest) rfl

/-- The scanner looks behind a token only to see that it goes no further. -/
theorem scan_of_append (h : scan (cs ++ rest) = .found t n) (hn : n ≤ cs.length) :
    scan cs = .found t n := by
  have hcs : 0 < cs.length := Nat.lt_of_lt_of_le (pos_of_scan h) hn
  unfold scan at h
  split at h
  case h_1 => cases h
  case h_26 heq =>
    obtain ⟨ds, rfl, hmore⟩ := exists_of_append_eq_cons heq hcs
    split at h
    · rename_i hd
      have hsign : 1 < n := lt_of_scanInteger hd h
      have hdigits : 0 < ds.length := by
        rw [List.length_cons] at hn
        omega
      rw [← hmore] at h
      obtain ⟨es, rfl, -⟩ := exists_of_append_eq_cons hmore hdigits
      rw [scan, if_pos hd]
      exact scanInteger_of_append h hn
    · cases h
  case h_27 heq | h_28 heq | h_29 heq =>
    obtain ⟨ds, rfl, rfl⟩ := exists_of_append_eq_cons heq hcs
    exact scanQuoted_of_append h hn
  case h_30 heq =>
    obtain ⟨ds, rfl, rfl⟩ := exists_of_append_eq_cons heq hcs
    rw [scan_of_isNameChar (isNameChar_of_scanName h)]
    exact scanName_of_append h hn
  case h_6 hflatten hfilter heq =>
    obtain ⟨ds, rfl, rfl⟩ := exists_of_append_eq_cons heq hcs
    rw [scan]
    · exact h
    · exact ne_of_append hflatten
    · exact ne_of_append hfilter
  case h_16 hlonger heq | h_18 hlonger heq | h_20 hlonger heq | h_23 hlonger heq |
      h_25 hlonger heq =>
    obtain ⟨ds, rfl, rfl⟩ := exists_of_append_eq_cons heq hcs
    rw [scan]
    · exact h
    · exact ne_of_append hlonger
  case h_4 heq | h_5 heq | h_15 heq | h_17 heq | h_19 heq | h_21 heq | h_22 heq | h_24 heq =>
    cases h
    obtain ⟨ds, rfl, hmore⟩ := exists_of_append_eq_cons heq hcs
    obtain ⟨es, rfl, -⟩ := exists_of_append_eq_cons hmore (Nat.le_of_succ_le_succ hn)
    rfl
  all_goals
    rename_i heq
    obtain ⟨ds, rfl, -⟩ := exists_of_append_eq_cons heq hcs
    exact h

theorem not_isSeparator_of_scan (h : scan (c :: cs) = .found t n) : ¬ isSeparator c = true := by
  intro hc
  simp only [isSeparator, Bool.or_eq_true, beq_iff_eq] at hc
  obtain ((rfl | rfl) | rfl) | rfl := hc <;> cases h

def bytes (cs : List Char) : Nat := (String.ofList cs).utf8ByteSize

@[simp] theorem bytes_nil : bytes [] = 0 := rfl

@[simp] theorem bytes_cons (c : Char) (cs : List Char) :
    bytes (c :: cs) = c.utf8Size + bytes cs := by
  rw [bytes, String.ofList_cons, String.utf8ByteSize_append, String.utf8ByteSize_singleton, bytes]

@[simp] theorem bytes_append (cs ds : List Char) : bytes (cs ++ ds) = bytes cs + bytes ds := by
  rw [bytes, String.ofList_append, String.utf8ByteSize_append, bytes, bytes]

theorem bytes_toList (s : String) : bytes s.toList = s.utf8ByteSize := by
  rw [bytes, String.ofList_toList]

theorem bytes_pos (h : 0 < cs.length) : 0 < bytes cs := by
  cases cs with
  | nil => cases h
  | cons c cs =>
    rw [bytes_cons]
    have hc := c.utf8Size_pos
    omega

/-- A token with its offset and the text it is read from. -/
structure Lexeme extends Located where
  text : String

def Lexeme.stop (l : Lexeme) : Nat := l.offset + l.text.utf8ByteSize

/-- A text that starts at an offset is blanks, and lexemes that the scanner takes where they
stand. -/
inductive Laid : Nat → List Char → List Lexeme → Prop
  | nil {offset : Nat} : Laid offset [] []
  | blank {offset : Nat} {c : Char} {cs : List Char} {ls : List Lexeme}
      (hc : isSeparator c = true) (h : Laid (offset + c.utf8Size) cs ls) : Laid offset (c :: cs) ls
  | lexeme {l : Lexeme} {rest : List Char} {ls : List Lexeme}
      (hscan : scan (l.text.toList ++ rest) = .found l.token l.text.length)
      (h : Laid l.stop rest ls) : Laid l.offset (l.text.toList ++ rest) (l :: ls)

section Laid

variable {ls : List Lexeme} {l : Lexeme}

theorem laid_of_scan (hscan : scan (c :: cs) = .found t (n + 1)) (hle : n ≤ cs.length)
    (h : Laid (offset + c.utf8Size + bytes (cs.take n)) (cs.drop n) ls) :
    Laid offset (c :: cs) (⟨⟨offset, t⟩, String.ofList (c :: cs.take n)⟩ :: ls) := by
  let l : Lexeme := ⟨⟨offset, t⟩, String.ofList (c :: cs.take n)⟩
  have htext : l.text.toList = c :: cs.take n := String.toList_ofList
  have hlength : l.text.length = n + 1 := by
    rw [← String.length_toList, htext, List.length_cons, List.length_take_of_le hle]
  have hstop : l.stop = offset + c.utf8Size + bytes (cs.take n) := by
    rw [Lexeme.stop, ← bytes_toList, htext, bytes_cons, Nat.add_assoc]
  have hwhole : c :: cs = l.text.toList ++ cs.drop n := by
    rw [htext, List.cons_append, List.take_append_drop]
  rw [← hlength, hwhole] at hscan
  rw [← hstop] at h
  rw [hwhole]
  exact .lexeme (l := l) hscan h

/-- A text that splits into tokens is laid out as lexemes. By induction on the text, with the
characters of a token that are still to be skipped. -/
theorem laid_of_tokensFrom {skip : Nat} {located : List Located}
    (h : tokensFrom offset skip cs = .ok located) (hskip : skip ≤ cs.length) :
    ∃ ls, Laid (offset + bytes (cs.take skip)) (cs.drop skip) ls ∧
      ls.map (·.toLocated) = located := by
  induction cs generalizing offset skip located with
  | nil =>
    obtain rfl : skip = 0 := Nat.le_zero.1 hskip
    cases h
    exact ⟨[], .nil, rfl⟩
  | cons c cs ih =>
    cases skip with
    | succ skip =>
      rw [tokensFrom] at h
      obtain ⟨ls, hlaid, hls⟩ := ih h (Nat.le_of_succ_le_succ hskip)
      rw [Nat.add_assoc, ← bytes_cons, ← List.take_succ_cons] at hlaid
      exact ⟨ls, hlaid, hls⟩
    | zero =>
      rw [tokensFrom] at h
      rw [List.take_zero, bytes_nil, Nat.add_zero, List.drop_zero]
      split at h
      · rename_i hseparator
        obtain ⟨ls, hlaid, hls⟩ := ih h (Nat.zero_le _)
        exact ⟨ls, .blank hseparator hlaid, hls⟩
      · split at h
        · rename_i t n hscan
          obtain ⟨n, rfl⟩ := Nat.exists_eq_succ_of_ne_zero (Nat.ne_zero_of_lt (pos_of_scan hscan))
          have hle := Nat.le_of_succ_le_succ (scan_append hscan divided_nil).1
          split at h
          · rename_i found hfound
            cases h
            obtain ⟨ls, hlaid, rfl⟩ := ih hfound hle
            exact ⟨_, laid_of_scan hscan hle hlaid, rfl⟩
          · cases h
        · cases h

theorem tokensFrom_skip (offset : Nat) (cs rest : List Char) :
    tokensFrom offset cs.length (cs ++ rest) = tokensFrom (offset + bytes cs) 0 rest := by
  induction cs generalizing offset with
  | nil => rfl
  | cons c cs ih =>
    rw [List.length_cons, List.cons_append, tokensFrom, ih, bytes_cons, Nat.add_assoc]

/-- A text splits into the lexemes that it is laid out as. -/
theorem Laid.tokensFrom_eq (h : Laid offset cs ls) :
    tokensFrom offset 0 cs = .ok (ls.map (·.toLocated)) := by
  induction h with
  | nil => rfl
  | blank hc _ ih => rw [tokensFrom, if_pos hc, ih]
  | @lexeme l rest ls hscan _ ih =>
    have hpos := pos_of_scan hscan
    rw [Lexeme.stop, ← bytes_toList] at ih
    rw [← String.length_toList] at hscan hpos
    cases htext : l.text.toList with
    | nil =>
      rw [htext] at hpos
      cases hpos
    | cons c cs =>
      rw [htext, List.cons_append] at hscan
      rw [htext, bytes_cons, ← Nat.add_assoc] at ih
      rw [List.cons_append]
      refine tokensFrom_found (not_isSeparator_of_scan hscan) hscan ?_
      exact (tokensFrom_skip _ cs rest).trans ih

theorem Laid.tokens_eq {s : String} (h : Laid 0 s.toList ls) :
    tokens s = .ok (ls.map (·.toLocated)) := h.tokensFrom_eq

theorem Laid.spells (h : Laid offset cs ls) : Spells cs (ls.map (·.token)) := by
  have hspells := spells_of_tokensFrom h.tokensFrom_eq
  rw [List.map_map] at hspells
  exact hspells

theorem Laid.stands (h : Laid offset cs ls) (hl : l ∈ ls) :
    ∃ before after, cs = before ++ (l.text.toList ++ after) ∧ l.offset = offset + bytes before ∧
      scan (l.text.toList ++ after) = .found l.token l.text.length := by
  induction h with
  | nil => cases hl
  | @blank offset c cs ls hc _ ih =>
    obtain ⟨before, after, rfl, hoffset, hscan⟩ := ih hl
    exact ⟨c :: before, after, rfl, by rw [hoffset, bytes_cons, Nat.add_assoc], hscan⟩
  | @lexeme m rest ls hscan _ ih =>
    obtain rfl | hl := List.mem_cons.1 hl
    · exact ⟨[], rest, rfl, rfl, hscan⟩
    · obtain ⟨before, after, rfl, hoffset, hscan⟩ := ih hl
      refine ⟨m.text.toList ++ before, after, (List.append_assoc ..).symm, ?_, hscan⟩
      rw [hoffset, bytes_append, bytes_toList, Lexeme.stop, Nat.add_assoc]

theorem Laid.apart (h : Laid offset cs ls) : ls.Pairwise (·.stop ≤ ·.offset) := by
  induction h with
  | nil => exact .nil
  | blank _ _ ih => exact ih
  | lexeme _ hrest ih =>
    refine List.pairwise_cons.2 ⟨fun m hm => ?_, ih⟩
    obtain ⟨before, _, -, hoffset, -⟩ := hrest.stands hm
    omega

theorem Laid.offset_lt_stop (h : Laid offset cs ls) (hl : l ∈ ls) : l.offset < l.stop := by
  obtain ⟨_, _, -, -, hscan⟩ := h.stands hl
  have hpos := pos_of_scan hscan
  rw [← String.length_toList] at hpos
  have hbytes := bytes_pos hpos
  rw [bytes_toList] at hbytes
  exact Nat.lt_add_of_pos_right hbytes

theorem append_eq_append_cons {ds before after : List Char}
    (h : cs ++ ds = before ++ c :: after) :
    (∃ mid, cs = before ++ c :: mid) ∨ ∃ mid, before = cs ++ mid ∧ ds = mid ++ c :: after := by
  obtain ⟨mid, hbefore, hds⟩ | ⟨mid, hcs, hmid⟩ := List.append_eq_append_iff.1 h
  · exact .inr ⟨mid, hbefore, hds⟩
  · cases mid with
    | nil => exact .inr ⟨[], by rw [hcs, List.append_nil, List.append_nil], hmid.symm⟩
    | cons d mid =>
      cases hmid
      exact .inl ⟨mid, hcs⟩

theorem Laid.blank_or_within (h : Laid offset cs ls) {before after : List Char}
    (hcs : cs = before ++ c :: after) :
    isSeparator c = true ∨
      ∃ l ∈ ls, l.offset ≤ offset + bytes before ∧ offset + bytes before < l.stop := by
  induction h generalizing before with
  | nil => simp at hcs
  | @blank offset d cs ls hd _ ih =>
    cases before with
    | nil =>
      cases hcs
      exact .inl hd
    | cons d before =>
      cases hcs
      rw [bytes_cons, ← Nat.add_assoc]
      exact ih rfl
  | @lexeme l rest ls hscan _ ih =>
    obtain ⟨mid, htext⟩ | ⟨mid, rfl, hrest⟩ := append_eq_append_cons hcs
    · refine .inr ⟨l, List.mem_cons_self, Nat.le_add_right _ _, ?_⟩
      have hc := c.utf8Size_pos
      rw [Lexeme.stop, ← bytes_toList, htext, bytes_append, bytes_cons]
      omega
    · rw [bytes_append, bytes_toList, ← Nat.add_assoc]
      exact (ih hrest).imp_right fun ⟨m, hm, hwithin⟩ => ⟨m, List.mem_cons_of_mem _ hm, hwithin⟩

/-- Where a lexeme stands in a text with a cut that does not go through it, it stands before the
cut, if the cut is not right at the start. -/
theorem exists_of_cut {text before after : List Char} (h : text ++ rest = before ++ after)
    (hbefore : before ≠ []) (hcut : bytes before = 0 ∨ bytes text ≤ bytes before) :
    ∃ mid, before = text ++ mid ∧ rest = mid ++ after := by
  obtain ⟨mid, hmid, hrest⟩ | ⟨mid, rfl, rfl⟩ := List.append_eq_append_iff.1 h
  · exact ⟨mid, hmid, hrest⟩
  · cases mid with
    | nil => exact ⟨[], by simp, rfl⟩
    | cons c mid =>
      have hpos := bytes_pos (List.length_pos_iff.2 hbefore)
      have hc := c.utf8Size_pos
      rw [bytes_append, bytes_cons] at hcut
      omega

/-- A text that is cut through no lexeme is laid out on both sides of the cut. -/
theorem Laid.split (h : Laid offset cs ls) {before after : List Char} (hcs : cs = before ++ after)
    (hcut : ∀ l ∈ ls, offset + bytes before ≤ l.offset ∨ l.stop ≤ offset + bytes before) :
    ∃ us vs, ls = us ++ vs ∧ Laid offset before us ∧ Laid (offset + bytes before) after vs := by
  induction h generalizing before with
  | nil =>
    obtain ⟨rfl, rfl⟩ := List.append_eq_nil_iff.1 hcs.symm
    exact ⟨[], [], rfl, .nil, .nil⟩
  | @blank offset c cs ls hc hrest ih =>
    cases before with
    | nil =>
      cases hcs
      exact ⟨[], ls, rfl, .nil, .blank hc hrest⟩
    | cons c before =>
      cases hcs
      rw [bytes_cons, ← Nat.add_assoc] at hcut ⊢
      obtain ⟨us, vs, rfl, hus, hvs⟩ := ih rfl hcut
      exact ⟨us, vs, rfl, .blank hc hus, hvs⟩
  | @lexeme l rest ls hscan hrest ih =>
    by_cases hstart : before = []
    · subst hstart
      rw [List.nil_append] at hcs
      exact ⟨[], l :: ls, rfl, .nil, hcs ▸ .lexeme hscan hrest⟩
    · have hl := hcut l List.mem_cons_self
      obtain ⟨mid, rfl, rfl⟩ := exists_of_cut hcs hstart (by
        rw [Lexeme.stop, ← bytes_toList] at hl
        omega)
      rw [bytes_append, bytes_toList, ← Nat.add_assoc] at hcut ⊢
      obtain ⟨us, vs, rfl, hus, hvs⟩ := ih rfl fun m hm => hcut m (List.mem_cons_of_mem _ hm)
      rw [← List.append_assoc] at hscan
      have hkept := scan_of_append hscan (by simp [String.length_toList])
      exact ⟨l :: us, vs, rfl, .lexeme hkept hus, hvs⟩

/-- Blanks where no lexeme stands leave the tokens as they are. -/
theorem Laid.spells_spaced (h : Laid offset cs ls) {before gap after : List Char}
    (hcs : cs = before ++ after)
    (hcut : ∀ l ∈ ls, offset + bytes before ≤ l.offset ∨ l.stop ≤ offset + bytes before)
    (hgap : ∀ c ∈ gap, isSeparator c = true) :
    Spells (before ++ (gap ++ after)) (ls.map (·.token)) := by
  obtain ⟨us, vs, rfl, hus, hvs⟩ := h.split hcs hcut
  cases gap with
  | nil =>
    rw [List.nil_append, ← hcs]
    exact h.spells
  | cons c gap =>
    have hc := hgap c List.mem_cons_self
    rw [List.map_append]
    exact hus.spells.append (hvs.spells.blanks hgap) (divided_cons (divides_of_isSeparator hc))

theorem Laid.alone (h : Laid offset cs ls) (hl : l ∈ ls) : tokens l.text = .ok [⟨0, l.token⟩] := by
  obtain ⟨_, _, -, -, hscan⟩ := h.stands hl
  have halone := scan_of_append hscan (Nat.le_of_eq String.length_toList.symm)
  rw [← List.append_nil l.text.toList] at halone
  have hlaid : Laid 0 (l.text.toList ++ []) [⟨⟨0, l.token⟩, l.text⟩] :=
    .lexeme (l := ⟨⟨0, l.token⟩, l.text⟩) halone .nil
  rw [List.append_nil] at hlaid
  exact hlaid.tokens_eq

end Laid

theorem parse_eq_ok_iff {query : String} {e : Expr} :
    parse query = .ok e ↔ ∃ located, tokens query = .ok located ∧ ofTokens located = .ok e := by
  unfold parse
  split
  · simp_all
  · split <;> simp_all

/-- Queries of the same tokens are the same expression. -/
theorem parse_congr {query query' : String} {located located' : List Located}
    (h : tokens query = .ok located) (h' : tokens query' = .ok located')
    (hsame : located'.map (·.token) = located.map (·.token)) {e : Expr} :
    parse query' = .ok e ↔ parse query = .ok e := by
  rw [parse_eq_ok_iff, parse_eq_ok_iff, h, h']
  simp only [Except.ok.injEq, exists_eq_left', ofTokens_congr hsame]

/-- How lexemes make up a query. -/
structure Lexed (query : String) (lexemes : List Lexeme) : Prop where
  /-- A lexeme starts between two characters, and its text is what the scanner takes there. -/
  stands (l : Lexeme) : l ∈ lexemes → ∃ before after, query = before ++ l.text ++ after ∧
    before.utf8ByteSize = l.offset ∧
      scan (l.text.toList ++ after.toList) = .found l.token l.text.length
  increasing : lexemes.Pairwise (·.offset < ·.offset)
  apart : lexemes.Pairwise (·.stop ≤ ·.offset)
  /-- There are only blanks outside. -/
  blank (before : String) (c : Char) (after : String) : query = before.push c ++ after →
    isSeparator c = true ∨
      ∃ l ∈ lexemes, l.offset ≤ before.utf8ByteSize ∧ before.utf8ByteSize < l.stop
  alone (l : Lexeme) : l ∈ lexemes → tokens l.text = .ok [⟨0, l.token⟩]
  /-- Blanks that go through no lexeme leave the tokens and what they are read as. -/
  spaced (before gap after : String) : query = before ++ after →
    (∀ l ∈ lexemes, before.utf8ByteSize ≤ l.offset ∨ l.stop ≤ before.utf8ByteSize) →
    (∀ c ∈ gap.toList, isSeparator c = true) →
    (∃ located, tokens (before ++ gap ++ after) = .ok located ∧
      located.map (·.token) = lexemes.map (·.token)) ∧
    ∀ e, parse (before ++ gap ++ after) = .ok e ↔ parse query = .ok e

/-- The tokens of a query are those of the lexemes that make it up. -/
theorem lexed_of_tokens {query : String} {located : List Located}
    (h : tokens query = .ok located) :
    ∃ lexemes : List Lexeme, lexemes.map (·.toLocated) = located ∧ Lexed query lexemes := by
  obtain ⟨lexemes, hlaid, rfl⟩ := laid_of_tokensFrom h (Nat.zero_le _)
  have hlaid : Laid 0 query.toList lexemes := hlaid
  have hstart (s : String) : 0 + bytes s.toList = s.utf8ByteSize := by
    rw [bytes_toList, Nat.zero_add]
  refine ⟨lexemes, rfl, ?_, ?_, hlaid.apart, ?_, fun l hl => hlaid.alone hl, ?_⟩
  · intro l hl
    obtain ⟨before, after, hquery, hoffset, hscan⟩ := hlaid.stands hl
    refine ⟨String.ofList before, String.ofList after, ?_, ?_, ?_⟩
    · rw [← String.toList_inj, hquery]
      simp
    · rw [hoffset, Nat.zero_add, bytes]
    · rw [String.toList_ofList]
      exact hscan
  · refine hlaid.apart.imp_of_mem fun hl _ hapart => ?_
    exact Nat.lt_of_lt_of_le (hlaid.offset_lt_stop hl) hapart
  · rintro before c after rfl
    have hquery : (before.push c ++ after).toList = before.toList ++ c :: after.toList := by simp
    rw [← hstart]
    exact hlaid.blank_or_within hquery
  · rintro before gap after rfl hcut hgap
    simp only [← hstart] at hcut
    obtain ⟨located, hlocated, htokens⟩ :=
      hlaid.spells_spaced String.toList_append hcut hgap 0
    have hspaced : tokens (before ++ gap ++ after) = .ok located := by
      rw [tokens, String.toList_append, String.toList_append, List.append_assoc]
      exact hlocated
    refine ⟨⟨located, hspaced, htokens⟩, fun e => parse_congr h hspaced ?_⟩
    rw [htokens, List.map_map]
    rfl

def closeQuery : String := "'é'[0]|| b"

/-- Tokens that stand close together stay the same when blanks separate them. -/
theorem close_query_lexed :
    tokens closeQuery = .ok [⟨0, .rawString "é"⟩, ⟨4, .lbracket⟩, ⟨5, .number 0⟩, ⟨6, .rbracket⟩,
      ⟨7, .or⟩, ⟨10, .identifier "b"⟩] ∧
      ∃ lexemes : List Lexeme, lexemes.map (·.toLocated) =
        [⟨0, .rawString "é"⟩, ⟨4, .lbracket⟩, ⟨5, .number 0⟩, ⟨6, .rbracket⟩, ⟨7, .or⟩,
          ⟨10, .identifier "b"⟩] ∧ Lexed closeQuery lexemes := by
  have htokens : tokens closeQuery = .ok [⟨0, .rawString "é"⟩, ⟨4, .lbracket⟩, ⟨5, .number 0⟩,
      ⟨6, .rbracket⟩, ⟨7, .or⟩, ⟨10, .identifier "b"⟩] := by rfl
  exact ⟨htokens, lexed_of_tokens htokens⟩

end Caseflow.Query
