import Caseflow.Scenario.Period
import Caseflow.Proofs.Json.Digits
import Caseflow.Proofs.Text.Runs
import Mathlib.Algebra.GroupWithZero.Nat
import Mathlib.Data.List.Basic

/-!
# How periods are written

A period is written as a numeral, or as components of a numeral, a unit and blanks. `Written` says
which texts these are and what they mean in seconds, in numbers without bound; a text is read as the
number that it means, if that has 64 bits.
-/
namespace Caseflow.Scenario.Period

open Text

variable {cs rest lead trail : List Char} {n : Nat}

inductive TimeUnit
  | second
  | minute
  | hour
  | day
  | week

namespace TimeUnit

def names : TimeUnit → List String
  | second => ["s", "second", "seconds"]
  | minute => ["m", "minute", "minutes"]
  | hour => ["h", "hour", "hours"]
  | day => ["d", "day", "days"]
  | week => ["w", "week", "weeks"]

def seconds : TimeUnit → Nat
  | second => 1
  | minute => 60
  | hour => 60 * 60
  | day => 24 * 60 * 60
  | week => 7 * 24 * 60 * 60

/-- The characters are those of a name of the unit, each in either case. -/
def Spells (u : TimeUnit) (cs : List Char) : Prop :=
  ∃ name ∈ u.names, cs.map Char.toLower = name.toList

end TimeUnit

theorem unitSeconds?_eq_some_iff {name : String} {k : Nat} :
    unitSeconds? name = some k ↔ ∃ u : TimeUnit, name ∈ u.names ∧ u.seconds = k := by
  constructor
  · intro h
    unfold unitSeconds? at h
    split at h
    all_goals cases h
    all_goals first
      | exact ⟨.second, by decide, rfl⟩
      | exact ⟨.minute, by decide, rfl⟩
      | exact ⟨.hour, by decide, rfl⟩
      | exact ⟨.day, by decide, rfl⟩
      | exact ⟨.week, by decide, rfl⟩
  · rintro ⟨u, hname, rfl⟩
    cases u <;> simp only [TimeUnit.names, List.mem_cons, List.not_mem_nil, or_false] at hname <;>
      obtain rfl | rfl | rfl := hname <;> rfl

theorem unitSeconds?_lowered {k : Nat} :
    unitSeconds? (lowered cs) = some k ↔ ∃ u : TimeUnit, u.Spells cs ∧ u.seconds = k := by
  rw [unitSeconds?_eq_some_iff]
  refine exists_congr fun u => and_congr_left fun _ => ⟨fun h => ⟨_, h, ?_⟩, ?_⟩
  · rw [lowered, String.toList_ofList]
  · rintro ⟨name, hname, hcs⟩
    rwa [lowered, hcs, String.ofList_toList]

theorem isLetter_of_toLower {c : Char} (h : isLetter c.toLower = true) : isLetter c = true := by
  unfold Char.toLower at h
  split at h
  · rename_i hupper
    simp only [isLetter, Bool.or_eq_true, Bool.and_eq_true, decide_eq_true_eq]
    exact .inr hupper
  · exact h

theorem TimeUnit.Spells.isLetter {u : TimeUnit} (h : u.Spells cs) :
    ∀ c ∈ cs, isLetter c = true := by
  obtain ⟨name, hname, hcs⟩ := h
  have hletters : ∀ u : TimeUnit, ∀ name ∈ u.names, name.toList.all Period.isLetter = true := by
    rintro (_ | _ | _ | _ | _) <;> decide
  intro c hc
  refine isLetter_of_toLower (List.all_eq_true.1 (hletters u name hname) _ ?_)
  rw [← hcs]
  exact List.mem_map_of_mem hc

theorem TimeUnit.Spells.ne_nil {u : TimeUnit} (h : u.Spells cs) : cs ≠ [] := by
  rintro rfl
  obtain ⟨name, hname, hcs⟩ := h
  have hnames : ∀ u : TimeUnit, ∀ name ∈ u.names, name.toList ≠ [] := by
    rintro (_ | _ | _ | _ | _) <;> decide
  exact hnames u name hname hcs.symm

theorem toNat_of_isLetter {c : Char} (h : isLetter c = true) :
    (65 ≤ c.toNat ∧ c.toNat ≤ 90) ∨ (97 ≤ c.toNat ∧ c.toNat ≤ 122) := by
  simpa [isLetter, Char.le_def, UInt32.le_iff_toNat_le, or_comm] using h

theorem isBlank_of_isLetter {c : Char} (h : isLetter c = true) : isBlank c = false := by
  obtain ⟨hlow, hhigh⟩ | ⟨hlow, hhigh⟩ := toNat_of_isLetter h
  · exact not_inRanges hlow hhigh (by decide)
  · exact not_inRanges hlow hhigh (by decide)

theorem isDecimalDigit_of_isLetter {c : Char} (h : isLetter c = true) :
    isDecimalDigit c = false := by
  obtain ⟨hlow, hhigh⟩ | ⟨hlow, hhigh⟩ := toNat_of_isLetter h
  · exact not_inRanges hlow hhigh (by decide)
  · exact not_inRanges hlow hhigh (by decide)

theorem isDecimalDigit_of_isBlank {c : Char} (h : isBlank c = true) : isDecimalDigit c = false := by
  have hapart : ∀ r ∈ blankRanges, ∀ q ∈ digitRanges, q.2 < r.1 ∨ r.2 < q.1 := by decide
  obtain ⟨r, hr, hlow, hhigh⟩ := (inRanges_iff _ _).1 h
  exact not_inRanges hlow hhigh (hapart r hr)

theorem isDecimalDigit_of_isDigit {c : Char} (h : Json.isDigit c = true) :
    isDecimalDigit c = true :=
  (inRanges_iff _ _).2 ⟨(48, 57), by decide, Json.toNat_of_isDigit h⟩

theorem not_isLetter_of_isDigit {c : Char} (h : Json.isDigit c = true) : isLetter c = false := by
  rw [Bool.eq_false_iff]
  intro hletter
  have hdigit := Json.toNat_of_isDigit h
  have := toNat_of_isLetter hletter
  omega

theorem not_isLetter_of_isBlank {c : Char} (h : isBlank c = true) : isLetter c = false := by
  rw [Bool.eq_false_iff]
  intro hletter
  rw [isBlank_of_isLetter hletter] at h
  cases h

/-- At least one digit, and nothing else. -/
def IsNumeral (cs : List Char) : Prop := cs ≠ [] ∧ ∀ c ∈ cs, Json.isDigit c = true

abbrev IsBlanks (cs : List Char) : Prop := ∀ c ∈ cs, isBlank c = true

def numeralValue (digits : List Char) : Nat := Nat.ofDigitChars 10 digits 0

theorem number?_of_isNumeral (h : IsNumeral cs) : number? cs = bounded? (numeralValue cs) := by
  have hguard : (cs.isEmpty || !cs.all Json.isDigit) = false := by
    simpa [h.1] using h.2
  rw [number?, if_neg (by rw [hguard]; exact Bool.false_ne_true), Json.natOfDigits_map_digitValue]
  rfl

theorem isNumeral_of_number? (h : number? cs = some n) : IsNumeral cs := by
  unfold number? at h
  split at h
  · cases h
  · rename_i hguard
    simpa [IsNumeral] using hguard

theorem bounded?_eq_some_iff {k : Nat} : bounded? k = some n ↔ k = n ∧ n ≤ Number.maxUnsigned := by
  rw [bounded?, Option.ite_none_right_eq_some, Option.some.injEq]
  constructor
  · rintro ⟨hle, rfl⟩
    exact ⟨rfl, hle⟩
  · rintro ⟨rfl, hle⟩
    exact ⟨hle, rfl⟩

/-- An amount and a unit, with the blanks after each. -/
structure Component where
  amount : List Char
  gap : List Char
  unit : TimeUnit
  name : List Char
  tail : List Char
  isNumeral : IsNumeral amount
  isBlanks_gap : IsBlanks gap
  spells : unit.Spells name
  isBlanks_tail : IsBlanks tail

namespace Component

variable (p : Component)

def chars : List Char := p.amount ++ (p.gap ++ (p.name ++ p.tail))

def seconds : Nat := numeralValue p.amount * p.unit.seconds

def bare : Component := { p with tail := [], isBlanks_tail := nofun }

theorem chars_bare : p.bare.chars = p.amount ++ (p.gap ++ p.name) := by
  rw [chars, bare, List.append_nil]

theorem chars_eq : p.chars = p.bare.chars ++ p.tail := by
  rw [chars_bare, chars, List.append_assoc, List.append_assoc]

theorem chars_ne_nil : p.chars ≠ [] :=
  List.append_ne_nil_of_left_ne_nil p.isNumeral.1 _

theorem isDigit_head : ∀ c ∈ p.chars.head?, Json.isDigit c = true := by
  obtain ⟨d, ds, hds⟩ := List.exists_cons_of_ne_nil p.isNumeral.1
  intro c hc
  rw [chars, hds] at hc
  cases hc
  exact p.isNumeral.2 d (by rw [hds]; exact List.mem_cons_self)

theorem isLetter_last : ∀ c ∈ p.bare.chars.getLast?, isLetter c = true := by
  intro c hc
  rw [chars_bare, ← List.append_assoc, List.getLast?_append_of_ne_nil _ p.spells.ne_nil] at hc
  exact p.spells.isLetter c (List.mem_of_getLast? hc)

end Component

theorem head?_append {p : Char → Bool} {b : Bool} (hcs : ∀ c ∈ cs.head?, p c = b)
    (hrest : ∀ c ∈ rest.head?, p c = b) : ∀ c ∈ (cs ++ rest).head?, p c = b := by
  cases cs with
  | nil => exact hrest
  | cons c cs => exact hcs

theorem TimeUnit.seconds_pos (u : TimeUnit) : 0 < u.seconds := by
  cases u <;> decide

/-- The bound on an amount is met wherever the bound on its seconds is. -/
theorem bounded?_mul {k : Nat} (hk : 0 < k) :
    ((bounded? n).bind fun amount => bounded? (amount * k)) = bounded? (n * k) := by
  by_cases hn : n ≤ Number.maxUnsigned
  · rw [bounded?, if_pos hn]
    rfl
  · have hmul := Nat.le_mul_of_pos_right n hk
    rw [bounded?, if_neg hn, bounded?, if_neg (by omega)]
    rfl

/-- A component is read up to the next one or to the end. -/
theorem component?_append (p : Component) (hrest : ∀ c ∈ rest.head?, Json.isDigit c = true) :
    component? (p.chars ++ rest) = (bounded? p.seconds).map (·, rest) := by
  have hletter : ∀ c ∈ (p.name ++ (p.tail ++ rest)).head?, isLetter c = true := by
    obtain ⟨c, cs, hname⟩ := List.exists_cons_of_ne_nil p.spells.ne_nil
    intro d hd
    rw [hname] at hd
    cases hd
    exact p.spells.isLetter c (by rw [hname]; exact List.mem_cons_self)
  have hgap : ∀ c ∈ (p.gap ++ (p.name ++ (p.tail ++ rest))).head?, isDecimalDigit c = false :=
    head?_append (fun c hc => isDecimalDigit_of_isBlank (p.isBlanks_gap c (List.mem_of_head? hc)))
      fun c hc => isDecimalDigit_of_isLetter (hletter c hc)
  have htail : ∀ c ∈ (p.tail ++ rest).head?, isLetter c = false :=
    head?_append (fun c hc => not_isLetter_of_isBlank (p.isBlanks_tail c (List.mem_of_head? hc)))
      fun c hc => not_isLetter_of_isDigit (hrest c hc)
  have hamount : ∀ c ∈ p.amount, isDecimalDigit c = true :=
    fun c hc => isDecimalDigit_of_isDigit (p.isNumeral.2 c hc)
  have hchars : p.chars ++ rest = p.amount ++ (p.gap ++ (p.name ++ (p.tail ++ rest))) := by
    simp only [Component.chars, List.append_assoc]
  rw [component?, hchars, takeWhile_run hamount hgap, dropWhile_run hamount hgap,
    dropWhile_run p.isBlanks_gap (fun c hc => isBlank_of_isLetter (hletter c hc))]
  dsimp only
  rw [takeWhile_run p.spells.isLetter htail, dropWhile_run p.spells.isLetter htail,
    dropWhile_run p.isBlanks_tail (fun c hc => Json.isBlank_of_isDigit (hrest c hc)),
    number?_of_isNumeral p.isNumeral, unitSeconds?_lowered.2 ⟨p.unit, p.spells, rfl⟩,
    Component.seconds, ← bounded?_mul p.unit.seconds_pos]
  cases bounded? (numeralValue p.amount) with
  | none => rfl
  | some amount =>
    rw [Option.bind_some]
    cases hseconds : bounded? (amount * p.unit.seconds) with
    | none => simp [hseconds]
    | some seconds => simp [hseconds]

/-- What is read as a component is written as one. -/
theorem exists_component {k : Nat} (h : component? cs = some (k, rest)) :
    ∃ p : Component, cs = p.chars ++ rest ∧ p.seconds = k := by
  obtain ⟨amount, hamount, h⟩ := Option.bind_eq_some_iff.1 h
  obtain ⟨unit, hunit, h⟩ := Option.bind_eq_some_iff.1 h
  obtain ⟨seconds, hseconds, h⟩ := Option.bind_eq_some_iff.1 h
  cases h
  obtain ⟨u, hspells, rfl⟩ := unitSeconds?_lowered.1 hunit
  have hnumeral := isNumeral_of_number? hamount
  rw [number?_of_isNumeral hnumeral] at hamount
  obtain ⟨rfl, -⟩ := bounded?_eq_some_iff.1 hamount
  obtain ⟨rfl, -⟩ := bounded?_eq_some_iff.1 hseconds
  refine ⟨⟨_, (cs.dropWhile isDecimalDigit).takeWhile isBlank, u, _,
    (((cs.dropWhile isDecimalDigit).dropWhile isBlank).dropWhile isLetter).takeWhile isBlank,
    hnumeral, List.all_eq_true.1 List.all_takeWhile, hspells,
    List.all_eq_true.1 List.all_takeWhile⟩, ?_, rfl⟩
  simp only [Component.chars, List.append_assoc, List.takeWhile_append_dropWhile]

theorem sum?_of_ne_nil {fuel total : Nat} (h : cs ≠ []) :
    sum? (fuel + 1) total cs = (component? cs).bind fun read =>
      (bounded? (total + read.1)).bind fun next => sum? fuel next read.2 := by
  obtain ⟨c, cs, rfl⟩ := List.exists_cons_of_ne_nil h
  rfl

def spelled (ps : List Component) : List Char := ps.flatMap Component.chars

def total (ps : List Component) : Nat := (ps.map Component.seconds).sum

theorem isDigit_head_spelled (ps : List Component) :
    ∀ c ∈ (spelled ps).head?, Json.isDigit c = true := by
  cases ps with
  | nil => exact nofun
  | cons p ps =>
    intro c hc
    obtain ⟨d, ds, hds⟩ := List.exists_cons_of_ne_nil p.chars_ne_nil
    refine p.isDigit_head c ?_
    rw [spelled, List.flatMap_cons, hds] at hc
    rw [hds]
    exact hc

theorem length_le_spelled (ps : List Component) : ps.length ≤ (spelled ps).length := by
  induction ps with
  | nil => exact Nat.zero_le _
  | cons p ps ih =>
    have hpos := List.length_pos_of_ne_nil p.chars_ne_nil
    rw [spelled, List.flatMap_cons, List.length_append, List.length_cons]
    unfold spelled at ih
    omega

theorem bounded?_add {m : Nat} :
    ((bounded? m).bind fun part => bounded? (n + part)) = bounded? (n + m) := by
  by_cases hm : m ≤ Number.maxUnsigned
  · rw [bounded?, if_pos hm]
    rfl
  · rw [bounded?, if_neg hm, bounded?, if_neg (by omega)]
    rfl

/-- Components are read as what they add up to. By induction on them, each of which takes some
fuel. -/
theorem sum?_spelled {ps : List Component} {fuel start : Nat} (hfuel : ps.length ≤ fuel)
    (hstart : start ≤ Number.maxUnsigned) :
    sum? fuel start (spelled ps) = bounded? (start + total ps) := by
  induction ps generalizing fuel start with
  | nil =>
    rw [total, List.map_nil, List.sum_nil, Nat.add_zero, bounded?, if_pos hstart]
    cases fuel <;> rfl
  | cons p ps ih =>
    obtain ⟨fuel, rfl⟩ := Nat.exists_eq_add_of_le' (Nat.lt_of_lt_of_le ps.length.succ_pos hfuel)
    have hne : spelled (p :: ps) ≠ [] := List.append_ne_nil_of_left_ne_nil p.chars_ne_nil _
    have hsum : start + total (p :: ps) = start + p.seconds + total ps := by
      rw [total, List.map_cons, List.sum_cons, ← Nat.add_assoc]
      rfl
    rw [sum?_of_ne_nil hne, hsum]
    change (component? (p.chars ++ spelled ps)).bind _ = _
    rw [component?_append p (isDigit_head_spelled ps)]
    rw [Option.bind_map]
    change (bounded? p.seconds).bind (fun part => (bounded? (start + part)).bind fun next =>
      sum? fuel next (spelled ps)) = _
    rw [← Option.bind_assoc, bounded?_add]
    by_cases hnext : start + p.seconds ≤ Number.maxUnsigned
    · rw [bounded?, if_pos hnext, Option.bind_some]
      exact ih (Nat.le_of_succ_le_succ hfuel) hnext
    · rw [bounded?, if_neg hnext, bounded?, if_neg (by omega), Option.bind_none]

/-- What is read as a sum is written as components that add up to it. -/
theorem exists_spelled {fuel start : Nat} (h : sum? fuel start cs = some n) :
    ∃ ps, cs = spelled ps ∧ start + total ps = n := by
  induction fuel generalizing start cs with
  | zero =>
    cases cs with
    | nil =>
      cases h
      exact ⟨[], rfl, rfl⟩
    | cons c cs => cases h
  | succ fuel ih =>
    by_cases hnil : cs = []
    · subst hnil
      cases h
      exact ⟨[], rfl, rfl⟩
    · rw [sum?_of_ne_nil hnil] at h
      obtain ⟨⟨seconds, rest⟩, hread, h⟩ := Option.bind_eq_some_iff.1 h
      obtain ⟨next, hnext, h⟩ := Option.bind_eq_some_iff.1 h
      obtain ⟨p, rfl, rfl⟩ := exists_component hread
      obtain ⟨rfl, -⟩ := bounded?_eq_some_iff.1 hnext
      obtain ⟨ps, rfl, rfl⟩ := ih h
      refine ⟨p :: ps, rfl, ?_⟩
      rw [total, List.map_cons, List.sum_cons, ← Nat.add_assoc]
      rfl

/-- The texts that mean a period, each with what it means in seconds. Blanks around them do not
matter. -/
inductive Written : List Char → Nat → Prop
  | numeral {lead digits trail : List Char} (hlead : IsBlanks lead) (hdigits : IsNumeral digits)
      (htrail : IsBlanks trail) : Written (lead ++ digits ++ trail) (numeralValue digits)
  | components {lead trail : List Char} {ps : List Component} (hlead : IsBlanks lead)
      (hps : ps ≠ []) (htrail : IsBlanks trail) : Written (lead ++ spelled ps ++ trail) (total ps)

theorem exists_bare {ps : List Component} (hps : ps ≠ []) :
    ∃ qs tail, spelled ps = spelled qs ++ tail ∧ IsBlanks tail ∧ total qs = total ps ∧ qs ≠ [] ∧
      ∀ c ∈ (spelled qs).getLast?, isLetter c = true := by
  obtain rfl | ⟨ps, p, rfl⟩ := List.eq_nil_or_concat' ps
  · exact absurd rfl hps
  · refine ⟨ps ++ [p.bare], p.tail, ?_, p.isBlanks_tail, ?_,
      List.append_ne_nil_of_right_ne_nil _ (List.cons_ne_nil _ _), ?_⟩
    · simp only [spelled, List.flatMap_append, List.flatMap_singleton, List.append_assoc,
        ← p.chars_eq]
    · simp [total, Component.seconds, Component.bare]
    · rw [spelled, List.flatMap_append, List.flatMap_singleton,
        List.getLast?_append_of_ne_nil _ p.bare.chars_ne_nil]
      exact p.isLetter_last

theorem ofText?_eq {text : String} (hcs : trimChars text.toList = cs) (hne : cs ≠ []) :
    ofText? text = if cs.all Json.isDigit then number? cs else sum? cs.length 0 cs := by
  rw [ofText?, hcs]
  exact if_neg (by simpa using hne)

theorem ofText?_numeral {text : String} {digits : List Char} (hlead : IsBlanks lead)
    (hdigits : IsNumeral digits) (htrail : IsBlanks trail)
    (htext : text.toList = lead ++ digits ++ trail) :
    ofText? text = bounded? (numeralValue digits) := by
  have hblank : ∀ c ∈ digits, isBlank c = false :=
    fun c hc => Json.isBlank_of_isDigit (hdigits.2 c hc)
  have htrim := trimChars_append hlead htrail (fun c hc => hblank c (List.mem_of_head? hc))
    (fun c hc => hblank c (List.mem_of_getLast? hc)) hdigits.1
  rw [← htext] at htrim
  rw [ofText?_eq htrim hdigits.1, if_pos (List.all_eq_true.2 hdigits.2),
    number?_of_isNumeral hdigits]

theorem ofText?_components {text : String} {ps : List Component} (hlead : IsBlanks lead)
    (hps : ps ≠ []) (htrail : IsBlanks trail) (htext : text.toList = lead ++ spelled ps ++ trail) :
    ofText? text = bounded? (total ps) := by
  obtain ⟨qs, tail, hspelled, htail, htotal, hqs, hlast⟩ := exists_bare hps
  have hne : spelled qs ≠ [] := by
    obtain ⟨q, qs, rfl⟩ := List.exists_cons_of_ne_nil hqs
    exact List.append_ne_nil_of_left_ne_nil q.chars_ne_nil _
  have hblanks : IsBlanks (tail ++ trail) := fun c hc =>
    (List.mem_append.1 hc).elim (htail c) (htrail c)
  have htrim := trimChars_append hlead hblanks
    (fun c hc => Json.isBlank_of_isDigit (isDigit_head_spelled qs c hc))
    (fun c hc => isBlank_of_isLetter (hlast c hc)) hne
  rw [← List.append_assoc, List.append_assoc lead, ← hspelled, ← htext] at htrim
  have hnot : ¬ (spelled qs).all Json.isDigit = true := by
    intro hall
    obtain ⟨c, hc⟩ := Option.isSome_iff_exists.1 (List.getLast?_isSome.2 hne)
    have hdigit := List.all_eq_true.1 hall c (List.mem_of_getLast? hc)
    have hletter := hlast c hc
    rw [not_isLetter_of_isDigit hdigit] at hletter
    cases hletter
  rw [ofText?_eq htrim hne, if_neg hnot, sum?_spelled (length_le_spelled qs) (Nat.zero_le _),
    Nat.zero_add, htotal]

/-- A text that is read is written as what it is read as. -/
theorem written_of_ofText? {text : String} (h : ofText? text = some n) : Written text.toList n := by
  obtain ⟨lead, trail, htext, hlead, htrail⟩ := exists_trimChars text.toList
  by_cases hnil : trimChars text.toList = []
  · rw [ofText?, hnil] at h
    cases h
  · rw [ofText?_eq rfl hnil] at h
    rw [htext]
    split at h
    · have hdigits := isNumeral_of_number? h
      rw [number?_of_isNumeral hdigits] at h
      obtain ⟨rfl, -⟩ := bounded?_eq_some_iff.1 h
      exact .numeral hlead hdigits htrail
    · obtain ⟨ps, hps, rfl⟩ := exists_spelled h
      rw [hps, Nat.zero_add]
      refine .components hlead ?_ htrail
      rintro rfl
      exact hnil hps

theorem ofText?_of_written {text : String} (h : Written text.toList n) :
    ofText? text = bounded? n := by
  generalize htext : text.toList = cs at h
  cases h with
  | numeral hlead hdigits htrail => exact ofText?_numeral hlead hdigits htrail htext
  | components hlead hps htrail => exact ofText?_components hlead hps htrail htext

/-- A text is read as the number of seconds that it means, if that has 64 bits, and refused as it is
if it has not, or if the text means none. Components may come in any order. -/
theorem read_as_written (text : String) :
    (∀ n, Written text.toList n →
      ofJson (.str text) = if n ≤ Number.maxUnsigned then .ok n else .error text) ∧
    ((¬ ∃ n, Written text.toList n) → ofJson (.str text) = .error text) ∧
    ∀ lead trail lead' trail' ps qs, IsBlanks lead → IsBlanks trail → IsBlanks lead' →
      IsBlanks trail' → ps ≠ [] → List.Perm ps qs →
      ofText? (String.ofList (lead ++ spelled ps ++ trail)) =
        ofText? (String.ofList (lead' ++ spelled qs ++ trail')) := by
  refine ⟨fun n hn => ?_, fun hnone => ?_, ?_⟩
  · rw [ofJson, ofText?_of_written hn, bounded?]
    split <;> rfl
  · cases h : ofText? text with
    | none => rw [ofJson, h, Option.elim_none]
    | some n => exact absurd ⟨n, written_of_ofText? h⟩ hnone
  · intro lead trail lead' trail' ps qs hlead htrail hlead' htrail' hps hperm
    have hqs : qs ≠ [] := fun hnil => hps (List.perm_nil.1 (hnil ▸ hperm))
    have htotal : total ps = total qs := (hperm.map Component.seconds).sum_nat
    rw [ofText?_components hlead hps htrail String.toList_ofList,
      ofText?_components hlead' hqs htrail' String.toList_ofList, htotal]

def oneHour : Component :=
  ⟨['1'], [], .hour, ['H'], [' '], ⟨by decide, List.all_eq_true.1 (by decide)⟩, nofun,
    ⟨"h", by decide, rfl⟩, List.all_eq_true.1 (by decide)⟩

def halfAnHour : Component :=
  ⟨['3', '0'], [' '], .minute, ['m', 'i', 'n', 'u', 't', 'e', 's'], [],
    ⟨by decide, List.all_eq_true.1 (by decide)⟩, List.all_eq_true.1 (by decide),
    ⟨"minutes", by decide, rfl⟩, nofun⟩

theorem read_hour_and_half :
    Written " 1H 30 minutes".toList 5400 ∧ ofJson (.str " 1H 30 minutes") = .ok 5400 ∧
      ofText? " 1H 30 minutes" = ofText? "30 minutes1H " := by
  have hlead : IsBlanks [' '] := List.all_eq_true.1 (by decide)
  have hwritten : Written " 1H 30 minutes".toList 5400 :=
    .components hlead (List.cons_ne_nil oneHour [halfAnHour]) nofun
  obtain ⟨hread, -, hany⟩ := read_as_written " 1H 30 minutes"
  exact ⟨hwritten, hread 5400 hwritten,
    hany [' '] [] [] [] [oneHour, halfAnHour] [halfAnHour, oneHour] hlead nofun nofun nofun
      (List.cons_ne_nil _ _) (.swap _ _ _)⟩

end Caseflow.Scenario.Period
