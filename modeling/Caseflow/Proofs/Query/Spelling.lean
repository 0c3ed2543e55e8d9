import Caseflow.Query.Lexer

/-!
# How tokens are spelt

A token at the head of a text does not depend on what follows it, as long as that starts with a
character no token goes on with: a blank or a parenthesis. So texts that spell tokens can be put
together, and wherever they stand they spell the same tokens.
-/
namespace Caseflow.Query

open Scan

variable {c quote : Char} {cs tail rest : List Char} {t : Token} {ts us : List Token} {n : Nat}

/-- A character that no token goes on with. -/
def Divides (c : Char) : Prop := isNameChar c = false ∧ c ∉ [']', '?', '&', '|', '=']

instance : DecidablePred Divides := fun c =>
  inferInstanceAs (Decidable (isNameChar c = false ∧ c ∉ [']', '?', '&', '|', '=']))

theorem divides_of_isSeparator (h : isSeparator c = true) : Divides c := by
  simp only [isSeparator, Bool.or_eq_true, beq_iff_eq] at h
  obtain ((rfl | rfl) | rfl) | rfl := h <;> decide

theorem Divides.isDigit (h : Divides c) : Json.isDigit c = false := by
  have hname := h.1
  rw [isNameChar, Bool.or_eq_false_iff] at hname
  exact hname.2

/-- What a text starts with after a token, or nothing. -/
def Divided (rest : List Char) : Prop := ∀ c ∈ rest.head?, Divides c

theorem divided_nil : Divided [] := nofun

theorem divided_cons (h : Divides c) : Divided (c :: rest) := by
  rintro _ ⟨⟩
  exact h

theorem divided_blanks {gap : List Char} (hgap : ∀ c ∈ gap, isSeparator c = true)
    (hrest : Divided rest) : Divided (gap ++ rest) := by
  cases gap with
  | nil => exact hrest
  | cons c gap => exact divided_cons (divides_of_isSeparator (hgap c List.mem_cons_self))

theorem ne_of_divided (htail : ∀ r, tail = c :: r → False) (hc : ¬ Divides c)
    (hrest : Divided rest) : ∀ r, tail ++ rest = c :: r → False := by
  intro r h
  cases tail with
  | nil =>
    rw [List.nil_append] at h
    exact hc (hrest c (by rw [h]; rfl))
  | cons d tail =>
    rw [List.cons_append, List.cons.injEq] at h
    exact htail tail (by rw [h.1])

theorem takeWhile_append {p : Char → Bool} (hp : ∀ c, Divides c → p c = false)
    (hrest : Divided rest) (cs : List Char) :
    (cs ++ rest).takeWhile p = cs.takeWhile p := by
  induction cs with
  | nil =>
    cases rest with
    | nil => rfl
    | cons d rest => exact List.takeWhile_cons_of_neg (by simp [hp d (hrest d rfl)])
  | cons d cs ih => rw [List.cons_append, List.takeWhile_cons, List.takeWhile_cons, ih]

theorem closing_cons (hslash : c ≠ '\\') (cs : List Char) :
    closing quote (c :: cs) =
      if c = quote then (1, .closed)
      else ((closing quote cs).1 + 1, (closing quote cs).2) := by
  rw [closing]
  · exact fun h => absurd h hslash
  · exact fun _ _ h => absurd h hslash

/-- A character that ends no text and escapes nothing is no backslash. -/
theorem ne_backslash (hlast : c = '\\' → cs = [] → False)
    (hescape : ∀ d ds, c = '\\' → cs = d :: ds → False) : c ≠ '\\' := by
  intro hslash
  cases cs with
  | nil => exact hlast hslash rfl
  | cons d ds => exact hescape d ds hslash rfl

theorem closing_append (h : closing quote cs = (n, .closed)) (rest : List Char) :
    0 < n ∧ n ≤ cs.length ∧ closing quote (cs ++ rest) = (n, .closed) := by
  fun_induction closing quote cs generalizing n with
  | case1 => cases h
  | case2 => cases h
  | case3 => cases h
  | case4 c cs hc m how hcs ih =>
    cases h
    obtain ⟨hpos, hle, hclosing⟩ := ih hcs
    rw [List.length_cons, List.length_cons]
    refine ⟨by omega, by omega, ?_⟩
    rw [List.cons_append, List.cons_append, closing, if_neg hc, hclosing]
  | case5 cs hlast hescape =>
    cases h
    have hslash := ne_backslash hlast hescape
    refine ⟨Nat.zero_lt_one, by simp, ?_⟩
    rw [List.cons_append, closing_cons hslash, if_pos rfl]
  | case6 c cs hlast hescape hc m how hcs ih =>
    cases h
    have hslash := ne_backslash hlast hescape
    obtain ⟨hpos, hle, hclosing⟩ := ih hcs
    rw [List.length_cons]
    refine ⟨by omega, by omega, ?_⟩
    rw [List.cons_append, closing_cons hslash, if_neg hc, hclosing]

theorem scanQuoted_append (h : scanQuoted quote cs = .found t n) (rest : List Char) :
    n ≤ cs.length + 1 ∧ scanQuoted quote (cs ++ rest) = .found t n := by
  unfold scanQuoted at h ⊢
  split at h
  · rename_i m hclosing
    obtain ⟨-, hle, hclosed⟩ := closing_append hclosing rest
    have htake : (cs ++ rest).take (m - 1) = cs.take (m - 1) :=
      List.take_append_of_le_length (by omega)
    simp only [hclosed, htake]
    split at h
    · rename_i u hquoted
      cases h
      exact ⟨by omega, rfl⟩
    · cases h
  · cases h

theorem eq_of_found {p : Prop} [Decidable p] {u : Token} {m k : Nat}
    (h : (if p then Scan.found u m else .unexpected k) = .found t n) : n = m := by
  split at h
  · exact (found.inj h).2.symm
  · cases h

theorem scanInteger_append {negative : Bool} (h : scanInteger negative cs = .found t n)
    (hrest : Divided rest) :
    n ≤ cs.length + (if negative then 1 else 0) ∧
      scanInteger negative (cs ++ rest) = .found t n := by
  have hdigits := takeWhile_append (fun c hc => hc.isDigit) hrest cs
  have hle := (List.takeWhile_prefix Json.isDigit (l := cs)).length_le
  have hn := eq_of_found h
  unfold scanInteger at h ⊢
  rw [hdigits]
  exact ⟨by omega, h⟩

/-- The token at a character of names: an integer or an identifier. -/
def scanName (cs : List Char) (c : Char) : Scan :=
  if Json.isDigit c then scanInteger false cs
  else if isNameStart c then
    .found (.identifier (String.ofList (cs.takeWhile isNameChar))) (cs.takeWhile isNameChar).length
  else .unexpected 1

theorem isNameChar_of_scanName (h : scanName cs c = .found t n) : isNameChar c = true := by
  unfold scanName at h
  rw [isNameChar, Bool.or_eq_true]
  split at h
  · rename_i hdigit
    exact .inr hdigit
  · split at h
    · rename_i hstart
      exact .inl hstart
    · cases h

theorem scan_of_isNameChar (hc : isNameChar c = true) (cs : List Char) :
    scan (c :: cs) = scanName (c :: cs) c := by
  rw [scan, scanName]
  all_goals
    intros
    subst_vars
    exact absurd hc (by decide)

theorem scanName_append (h : scanName cs c = .found t n) (hrest : Divided rest) :
    n ≤ cs.length ∧ scanName (cs ++ rest) c = .found t n := by
  have hname := takeWhile_append (fun c hc => hc.1) hrest cs
  unfold scanName at h ⊢
  rw [hname]
  split
  · rename_i hdigit
    rw [if_pos hdigit] at h
    exact scanInteger_append h hrest
  · rename_i hdigit
    rw [if_neg hdigit] at h
    exact ⟨eq_of_found h ▸ (List.takeWhile_prefix isNameChar).length_le, h⟩

/-- A token keeps its place when the text goes on behind it. -/
theorem scan_append (h : scan cs = .found t n) (hrest : Divided rest) :
    n ≤ cs.length ∧ scan (cs ++ rest) = .found t n := by
  unfold scan at h
  split at h
  case h_1 => cases h
  case h_6 hflatten hfilter =>
    cases h
    refine ⟨by simp, ?_⟩
    rw [List.cons_append, scan]
    · exact ne_of_divided hflatten (by decide) hrest
    · exact ne_of_divided hfilter (by decide) hrest
  case h_16 hlonger | h_18 hlonger | h_20 hlonger | h_23 hlonger | h_25 hlonger =>
    cases h
    refine ⟨by simp, ?_⟩
    rw [List.cons_append, scan]
    exact ne_of_divided hlonger (by decide) hrest
  case h_26 =>
    split at h
    · rename_i hd
      obtain ⟨hle, hscan⟩ := scanInteger_append h hrest
      refine ⟨hle, ?_⟩
      rw [List.cons_append, List.cons_append, scan, if_pos hd]
      exact hscan
    · cases h
  case h_27 | h_28 | h_29 => exact scanQuoted_append h rest
  case h_30 =>
    obtain ⟨hle, hscan⟩ := scanName_append h hrest
    refine ⟨hle, ?_⟩
    rw [List.cons_append, scan_of_isNameChar (isNameChar_of_scanName h)]
    exact hscan
  all_goals
    cases h
    exact ⟨by simp, rfl⟩

/-- A text spells tokens: it splits into them, at whatever offset it stands. -/
def Spells (cs : List Char) (ts : List Token) : Prop :=
  ∀ offset, ∃ located, tokensFrom offset 0 cs = .ok located ∧ located.map (·.token) = ts

theorem tokensFrom_found {offset : Nat} {located : List Located} (hc : ¬ isSeparator c = true)
    (hscan : scan (c :: cs) = .found t n)
    (hrest : tokensFrom (offset + c.utf8Size) (n - 1) cs = .ok located) :
    tokensFrom offset 0 (c :: cs) = .ok (⟨offset, t⟩ :: located) := by
  rw [tokensFrom, if_neg hc, hscan]
  simp only [hrest]

theorem tokensFrom_append {located : List Located} {offset skip : Nat}
    (h : tokensFrom offset skip cs = .ok located) (hskip : skip ≤ cs.length)
    (hrest : Spells rest us) (hdivided : Divided rest) (offset' : Nat) :
    ∃ more, tokensFrom offset' skip (cs ++ rest) = .ok more ∧
      more.map (·.token) = located.map (·.token) ++ us := by
  induction cs generalizing offset skip located offset' with
  | nil =>
    obtain rfl : skip = 0 := Nat.le_zero.1 hskip
    cases h
    exact hrest offset'
  | cons c cs ih =>
    rw [List.cons_append]
    cases skip with
    | succ skip =>
      rw [tokensFrom] at h ⊢
      exact ih h (Nat.le_of_succ_le_succ hskip) _
    | zero =>
      rw [tokensFrom] at h
      split at h
      · rename_i hseparator
        rw [tokensFrom, if_pos hseparator]
        exact ih h (Nat.zero_le _) _
      · rename_i hseparator
        split at h
        · rename_i t n hscan
          obtain ⟨hle, hkept⟩ := scan_append hscan hdivided
          rw [List.length_cons] at hle
          split at h
          · rename_i found hfound
            obtain ⟨more, hmore, hsame⟩ := ih hfound (by omega) (offset' + c.utf8Size)
            cases h
            exact ⟨_, tokensFrom_found hseparator hkept hmore, by simp [hsame]⟩
          · cases h
        · cases h

theorem spells_nil : Spells [] [] := fun _ => ⟨[], rfl, rfl⟩

/-- The tokens of a text do not depend on where it stands. -/
theorem spells_of_tokensFrom {located : List Located} {offset : Nat}
    (h : tokensFrom offset 0 cs = .ok located) : Spells cs (located.map (·.token)) := by
  intro offset'
  obtain ⟨more, hmore, hsame⟩ :=
    tokensFrom_append h (Nat.zero_le _) spells_nil divided_nil offset'
  rw [List.append_nil] at hmore hsame
  exact ⟨more, hmore, hsame⟩

/-- Texts put together spell the tokens of both, if the second starts with a character that no
token goes on with. -/
theorem Spells.append (hcs : Spells cs ts) (hrest : Spells rest us) (hdivided : Divided rest) :
    Spells (cs ++ rest) (ts ++ us) := by
  intro offset
  obtain ⟨located, hlocated, rfl⟩ := hcs offset
  exact tokensFrom_append hlocated (Nat.zero_le _) hrest hdivided offset

/-- A character that is a token whatever follows it, as a parenthesis is. -/
theorem Spells.cons (hcs : Spells cs ts) (hscan : scan (c :: cs) = .found t 1)
    (hc : ¬ isSeparator c = true) : Spells (c :: cs) (t :: ts) := by
  intro offset
  obtain ⟨located, hlocated, rfl⟩ := hcs (offset + c.utf8Size)
  exact ⟨_, tokensFrom_found hc hscan hlocated, rfl⟩

theorem Spells.blank (hcs : Spells cs ts) (hc : isSeparator c = true) : Spells (c :: cs) ts := by
  intro offset
  obtain ⟨located, hlocated, rfl⟩ := hcs (offset + c.utf8Size)
  exact ⟨located, by rw [tokensFrom, if_pos hc, hlocated], rfl⟩

theorem Spells.blanks {gap : List Char} (hcs : Spells cs ts)
    (hgap : ∀ c ∈ gap, isSeparator c = true) : Spells (gap ++ cs) ts := by
  induction gap with
  | nil => exact hcs
  | cons c gap ih =>
    obtain ⟨hc, hgap⟩ := List.forall_mem_cons.1 hgap
    exact (ih hgap).blank hc

end Caseflow.Query
