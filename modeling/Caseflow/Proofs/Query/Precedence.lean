import Caseflow.Query.Eval
import Caseflow.Regex.Search
import Caseflow.Proofs.Query.Locality
import Caseflow.Proofs.Query.Spelling

/-!
# Operator precedence

Operands in parentheses, joined by operators, are read as the one tree that groups them by the
levels of their operators, and within a level from the left. Each right side is the longest part of
the chain whose operators bind tighter than its own, so reading a part leaves operators that bind
no tighter, and the loop joins what it has read so far before it goes on.
-/
namespace Caseflow.Query

open Reader

inductive Operator
  | pipe
  | or
  | and
  | comparison (op : Comparator)

/-- Characters between tokens. -/
abbrev Blanks := {gap : String // ∀ c ∈ gap.toList, isSeparator c = true}

namespace Operator

def symbol : Operator → String
  | pipe => "|"
  | or => "||"
  | and => "&&"
  | comparison .eq => "=="
  | comparison .ne => "!="
  | comparison .lt => "<"
  | comparison .lte => "<="
  | comparison .gt => ">"
  | comparison .gte => ">="

/-- Operators of a higher level are grouped first. -/
def level : Operator → Nat
  | pipe => 1
  | or => 2
  | and => 3
  | comparison _ => 4

def join : Operator → Expr → Expr → Expr
  | pipe => .chain
  | or => .or
  | and => .and
  | comparison op => .comparison op

def token : Operator → Token
  | pipe => .pipe
  | or => .or
  | and => .and
  | comparison op => .comparison op

theorem power_lt_iff (a b : Operator) : a.token.power < b.token.power ↔ a.level < b.level := by
  cases a <;> cases b <;> simp [token, Token.power, level]

theorem power_le_iff (a b : Operator) : a.token.power ≤ b.token.power ↔ a.level ≤ b.level := by
  rw [← Nat.not_lt, ← Nat.not_lt, power_lt_iff]

theorem power_pos (op : Operator) : 0 < op.token.power := by
  cases op <;> exact Nat.succ_pos _

end Operator

/-- A query that is read, to stand in parentheses. -/
structure Operand where
  query : String
  expr : Expr
  reads : parse query = .ok expr

/-- An operator with the operand on its right, and the blanks around it. -/
structure Link where
  before : Blanks
  op : Operator
  after : Blanks
  operand : Operand

def Operand.text (operand : Operand) : String := "(" ++ operand.query ++ ")"

def Link.text (link : Link) : String :=
  link.before.val ++ link.op.symbol ++ link.after.val ++ link.operand.text

/-- Operands in parentheses with operators between them. -/
def chainText (first : Operand) (links : List Link) : String :=
  first.text ++ String.join (links.map Link.text)

/-- The tree of a chain: at its root stands an operator such that none before it binds less tightly
and all after it bind tighter. -/
inductive Grouped : Operand → List Link → Expr → Prop
  | operand (first : Operand) : Grouped first [] first.expr
  | join {first : Operand} {link : Link} {before after : List Link} {l r : Expr}
      (hl : Grouped first before l) (hr : Grouped link.operand after r)
      (hbefore : ∀ k ∈ before, link.op.level ≤ k.op.level)
      (hafter : ∀ k ∈ after, link.op.level < k.op.level) :
      Grouped first (before ++ link :: after) (link.op.join l r)

section Unique

variable {first : Operand} {links before after : List Link} {link : Link} {e e' : Expr}

/-- There is only one place for the root. -/
theorem split_unique {before' after' : List Link} {link' : Link}
    (h : before ++ link :: after = before' ++ link' :: after')
    (hafter : ∀ k ∈ after, link.op.level < k.op.level)
    (hbefore' : ∀ k ∈ before', link'.op.level ≤ k.op.level)
    (hlen : before.length ≤ before'.length) :
    before = before' ∧ link = link' ∧ after = after' := by
  obtain ⟨mid, rfl, hmid⟩ | ⟨mid, rfl, hmid⟩ := List.append_eq_append_iff.1 h
  · cases mid with
    | nil =>
      cases hmid
      exact ⟨(List.append_nil _).symm, rfl, rfl⟩
    | cons k mid =>
      cases hmid
      have hle := hbefore' link (by simp)
      have hlt := hafter link' (by simp)
      omega
  · obtain rfl : mid = [] := by
      rw [List.length_append] at hlen
      exact List.eq_nil_of_length_eq_zero (by omega)
    cases hmid
    exact ⟨List.append_nil _, rfl, rfl⟩

theorem Grouped.unique (h : Grouped first links e) (h' : Grouped first links e') : e = e' := by
  induction h generalizing e' with
  | operand first =>
    generalize hlinks : [] = links at h'
    cases h' with
    | operand => rfl
    | join => exact absurd hlinks.symm (by simp)
  | @join first link before after l r hl hr hbefore hafter ihl ihr =>
    generalize hlinks : before ++ link :: after = links at h'
    cases h' with
    | operand => exact absurd hlinks (by simp)
    | @join _ link' before' after' l' r' hl' hr' hbefore' hafter' =>
      have hsame : before = before' ∧ link = link' ∧ after = after' := by
        obtain hlen | hlen := Nat.le_total before.length before'.length
        · exact split_unique hlinks hafter hbefore' hlen
        · obtain ⟨h₁, h₂, h₃⟩ := split_unique hlinks.symm hafter' hbefore hlen
          exact ⟨h₁.symm, h₂.symm, h₃.symm⟩
      obtain ⟨rfl, rfl, rfl⟩ := hsame
      rw [ihl hl', ihr hr']

end Unique

namespace Operand

def tokens (operand : Operand) : List Token :=
  match Query.tokens operand.query with
  | .ok located => located.map (·.token)
  | .error _ => []

theorem exists_tokens (operand : Operand) :
    ∃ located, Query.tokens operand.query = .ok located ∧
      located.map (·.token) = operand.tokens ∧ ofTokens located = .ok operand.expr := by
  have hreads := operand.reads
  unfold parse at hreads
  unfold tokens
  split at hreads
  · cases hreads
  · rename_i located hlocated
    rw [hlocated]
    refine ⟨located, rfl, rfl, ?_⟩
    split at hreads
    · rename_i e he
      cases hreads
      exact he
    · cases hreads
    · cases hreads

def enclosed (operand : Operand) : List Token := .lparen :: operand.tokens ++ [.rparen]

end Operand

def linkTokens (links : List Link) : List Token :=
  links.flatMap fun link => link.op.token :: link.operand.enclosed

theorem linkTokens_cons (link : Link) (links : List Link) :
    linkTokens (link :: links) = link.op.token :: (link.operand.enclosed ++ linkTokens links) := rfl

theorem linkTokens_append (links links' : List Link) :
    linkTokens (links ++ links') = linkTokens links ++ linkTokens links' := List.flatMap_append

theorem spells_operator (op : Operator) : Spells op.symbol.toList [op.token] := by
  have htokens : tokensFrom 0 0 op.symbol.toList = .ok [⟨0, op.token⟩] := by
    cases op with
    | comparison op => cases op <;> rfl
    | _ => rfl
  exact spells_of_tokensFrom htokens

theorem spells_operand {cs : List Char} {ts : List Token} (h : Spells cs ts) (operand : Operand) :
    Spells (operand.text.toList ++ cs) (operand.enclosed ++ ts) := by
  obtain ⟨located, hlocated, htokens, -⟩ := operand.exists_tokens
  have hclose : Spells (')' :: cs) (.rparen :: ts) := h.cons rfl (by decide)
  have hquery : Spells operand.query.toList operand.tokens :=
    htokens ▸ spells_of_tokensFrom hlocated
  have hopen : Spells ('(' :: (operand.query.toList ++ ')' :: cs))
      (.lparen :: (operand.tokens ++ .rparen :: ts)) :=
    (hquery.append hclose (divided_cons (by decide))).cons rfl (by decide)
  have htext : operand.text.toList ++ cs = '(' :: (operand.query.toList ++ ')' :: cs) := by
    simp [Operand.text]
  rw [htext, Operand.enclosed, List.cons_append, List.cons_append, List.append_assoc]
  exact hopen

theorem spells_link {cs : List Char} {ts : List Token} (h : Spells cs ts) (link : Link) :
    Spells (link.text.toList ++ cs) (link.op.token :: link.operand.enclosed ++ ts) := by
  have hparen : Divided (link.operand.text.toList ++ cs) := by
    rw [Operand.text, String.toList_append, String.toList_append]
    exact divided_cons (by decide)
  have hdivided := divided_blanks link.after.property hparen
  have hright := (spells_operand h link.operand).blanks link.after.property
  have hop := (spells_operator link.op).append hright hdivided
  rw [Link.text, String.toList_append, String.toList_append, String.toList_append]
  simp only [List.append_assoc]
  exact hop.blanks link.before.property

theorem spells_links (links : List Link) :
    Spells (links.flatMap (·.text.toList)) (linkTokens links) := by
  induction links with
  | nil => exact spells_nil
  | cons link links ih => exact spells_link ih link

theorem spells_chainText (first : Operand) (links : List Link) :
    Spells (chainText first links).toList (first.enclosed ++ linkTokens links) := by
  have htext : (chainText first links).toList =
      first.text.toList ++ links.flatMap (·.text.toList) := by
    rw [chainText, String.toList_append, String.toList_join, List.flatMap_map]
  rw [htext]
  exact spells_operand (spells_links links) first

theorem length_eq_of_tokens {us : List Located} {ts : List Token} (h : us.map (·.token) = ts) :
    us.length = ts.length := by
  rw [← h, List.length_map]

section Reading

variable {sub : Nat → Reader Expr} {t : Located} {fuel : Nat}

theorem operand_lparen (h : t.token = .lparen) (ts : List Located) :
    operand sub fuel (t :: ts) =
      (sub 0 >>= fun inner => expect .rparen >>= fun _ => pure inner) ts := by
  obtain ⟨offset, token⟩ := t
  subst h
  rfl

theorem expect_cons {token : Token} (h : t.token = token) (ts : List Located) :
    expect token (t :: ts) = .ok ((), ts) := by
  change (if t.token = token then (pure () : Reader Unit) else _) ts = _
  rw [if_pos h]
  rfl

theorem extension_operator {op : Operator} (h : t.token = op.token) (left : Expr)
    (ts : List Located) :
    extension sub fuel left (t :: ts) =
      (sub op.token.power >>= fun right => pure (op.join left right)) ts := by
  obtain ⟨offset, token⟩ := t
  subst h
  cases op <;> rfl

theorem extend_cons (power : Nat) (left : Expr) (ts : List Located) :
    extend sub power (fuel + 1) left (t :: ts) =
      (if power < t.token.power then extension sub fuel left >>= extend sub power fuel
        else pure left) (t :: ts) := rfl

/-- An operand in parentheses is read as what it is read as alone, whatever follows. -/
theorem operand_enclosed (o : Operand) {us : List Located} {ts : List Token}
    (hus : us.map (·.token) = o.enclosed ++ ts) (hfuel : us.length ≤ fuel) (depth : Nat) :
    ∃ rest, operand (expression fuel) depth us = .ok (o.expr, rest) ∧ rest.map (·.token) = ts := by
  obtain ⟨located, -, htokens, hread⟩ := o.exists_tokens
  rw [Operand.enclosed, ← htokens, List.cons_append, List.cons_append, List.append_assoc] at hus
  obtain ⟨opening, us, rfl, hopening, hus⟩ := List.map_eq_cons_iff.1 hus
  obtain ⟨vs, us, rfl, hvs, hus⟩ := List.map_eq_append_iff.1 hus
  obtain ⟨closing, rest, rfl, hclosing, hrest⟩ := List.map_eq_cons_iff.1 hus
  have hlength : located.length < fuel := by
    have hsame := congrArg List.length hvs
    simp only [List.length_map, List.length_cons, List.length_append] at hsame hfuel
    omega
  have hclose : Closes (closing :: rest) := closes_cons hclosing
  have hinner := expression_append hread hvs hclose hlength
  refine ⟨rest, ?_, hrest⟩
  rw [operand_lparen hopening, run_bind, hinner]
  change (expect .rparen >>= fun _ => pure o.expr) (closing :: rest) = _
  rw [run_bind, expect_cons hclosing]
  rfl

/-- What is read of a chain with a power: the links whose operators bind tighter, up to an operator
that does not. -/
structure Part (power : Nat) (first : Operand) (links inner outer : List Link) (e : Expr) :
    Prop where
  split : links = inner ++ outer
  tighter : ∀ k ∈ inner, power < k.op.token.power
  looser : ∀ k ∈ outer.head?, k.op.token.power ≤ power
  grouped : Grouped first inner e

/-- The outcome is a part of a chain, with the tokens of the links behind it left to read. -/
def IsPart (power : Nat) (first : Operand) (links : List Link)
    (out : Except Stop (Expr × List Located)) : Prop :=
  ∃ inner outer e rest, Part power first links inner outer e ∧ out = .ok (e, rest) ∧
    rest.map (·.token) = linkTokens outer

/-- The reader with this fuel reads the part of every chain that has fewer tokens. -/
def ReadsParts (fuel : Nat) : Prop :=
  ∀ (power : Nat) (first : Operand) (links : List Link) (us : List Located),
    us.map (·.token) = first.enclosed ++ linkTokens links → us.length < fuel →
    IsPart power first links (expression fuel power us)

/-- Where the loop stands: what it has joined binds tighter than its power, and the next operator
no tighter than any that is joined. -/
structure Joined (power : Nat) (first : Operand) (done todo : List Link) (left : Expr) : Prop where
  grouped : Grouped first done left
  tighter : ∀ k ∈ done, power < k.op.token.power
  descends : ∀ next ∈ todo.head?, ∀ k ∈ done, next.op.token.power ≤ k.op.token.power

/-- The next operator takes what is joined on its left, and the part read for it on its right. -/
theorem Joined.join {power : Nat} {first : Operand} {done todo inner outer : List Link}
    {link : Link} {left right : Expr} (h : Joined power first done (link :: todo) left)
    (hpower : power < link.op.token.power)
    (hpart : Part link.op.token.power link.operand todo inner outer right) :
    Joined power first (done ++ link :: inner) outer (link.op.join left right) where
  grouped :=
    .join h.grouped hpart.grouped
      (fun k hk => (Operator.power_le_iff _ _).1 (h.descends link rfl k hk))
      (fun k hk => (Operator.power_lt_iff _ _).1 (hpart.tighter k hk))
  tighter := by
    intro k hk
    obtain hk | rfl | hk := by simpa using hk
    · exact h.tighter k hk
    · exact hpower
    · exact Nat.lt_trans hpower (hpart.tighter k hk)
  descends := by
    intro next hnext k hk
    have hle := hpart.looser next hnext
    obtain hk | rfl | hk := by simpa using hk
    · exact Nat.le_trans hle (h.descends link rfl k hk)
    · exact hle
    · exact Nat.le_trans hle (Nat.le_of_lt (hpart.tighter k hk))

/-- The loop goes on up to an operator that does not bind tighter than its power. -/
theorem extend_part (hsub : ReadsParts fuel) {power n : Nat} {first : Operand} (hn : n ≤ fuel)
    {done todo : List Link} {left : Expr} {ts : List Located}
    (hjoined : Joined power first done todo left)
    (hts : ts.map (·.token) = linkTokens todo) (hlength : ts.length < n) :
    IsPart power first (done ++ todo) (extend (expression fuel) power n left ts) := by
  induction n generalizing done todo left ts with
  | zero => exact absurd hlength (Nat.not_lt_zero _)
  | succ n ih =>
    cases todo with
    | nil =>
      obtain rfl := List.map_eq_nil_iff.1 hts
      exact ⟨done, [], left, [], ⟨rfl, hjoined.tighter, nofun, hjoined.grouped⟩, rfl, rfl⟩
    | cons link todo =>
      have hall := hts
      rw [linkTokens_cons] at hts
      obtain ⟨t, ts, rfl, ht, hts⟩ := List.map_eq_cons_iff.1 hts
      rw [List.length_cons] at hlength
      by_cases hpower : power < link.op.token.power
      · obtain ⟨inner, outer, right, rest, hpart, hread, hrest⟩ :=
          hsub link.op.token.power link.operand todo ts hts (by omega)
        have hextension : extension (expression fuel) n left (t :: ts) =
            .ok (link.op.join left right, rest) := by
          rw [extension_operator ht, run_bind, hread]
          rfl
        have hshorter : rest.length ≤ ts.length := by
          rw [length_eq_of_tokens hrest, length_eq_of_tokens hts, hpart.split, linkTokens_append,
            List.length_append, List.length_append]
          omega
        obtain ⟨inner', outer', e, rest', hpart', hextend, hrest'⟩ :=
          ih (by omega) (hjoined.join hpower hpart) hrest (by omega)
        refine ⟨inner', outer', e, rest', ?_, ?_, hrest'⟩
        · rw [hpart.split]
          rw [List.append_assoc] at hpart'
          exact hpart'
        · rw [extend_cons, ht, if_pos hpower, run_bind, hextension]
          exact hextend
      · have hlooser : ∀ k ∈ (link :: todo).head?, k.op.token.power ≤ power := by
          rintro _ ⟨⟩
          exact Nat.le_of_not_lt hpower
        refine ⟨done, link :: todo, left, t :: ts,
          ⟨rfl, hjoined.tighter, hlooser, hjoined.grouped⟩, ?_, hall⟩
        rw [extend_cons, ht, if_neg hpower]
        rfl

/-- Every chain is read part by part with fuel for its tokens. -/
theorem readsParts (fuel : Nat) : ReadsParts fuel := by
  induction fuel with
  | zero => exact fun _ _ _ _ _ hlength => absurd hlength (Nat.not_lt_zero _)
  | succ fuel ih =>
    intro power first links us hus hlength
    obtain ⟨rest, hoperand, hrest⟩ :=
      operand_enclosed first hus (Nat.le_of_lt_succ hlength) fuel
    have hshorter : rest.length < fuel := by
      rw [length_eq_of_tokens hus, List.length_append, ← length_eq_of_tokens hrest,
        Operand.enclosed, List.length_append, List.length_cons] at hlength
      omega
    obtain ⟨inner, outer, e, rest', hpart, hextend, hrest'⟩ :=
      extend_part ih (Nat.le_refl fuel) ⟨.operand first, nofun, nofun⟩ hrest hshorter
    refine ⟨inner, outer, e, rest', hpart, ?_, hrest'⟩
    change (operand (expression fuel) fuel >>= extend (expression fuel) power fuel) us = _
    rw [run_bind, hoperand]
    exact hextend

end Reading

theorem exists_grouped (first : Operand) (links : List Link) :
    ∃ e, parse (chainText first links) = .ok e ∧ Grouped first links e := by
  obtain ⟨us, htokens, hus⟩ := spells_chainText first links 0
  obtain ⟨inner, outer, e, rest, hpart, hread, hrest⟩ :=
    readsParts (us.length + 1) 0 first links us hus (Nat.lt_succ_self _)
  have houter : outer = [] := by
    cases outer with
    | nil => rfl
    | cons link outer =>
      exact absurd (hpart.looser link rfl) (Nat.not_le_of_lt link.op.power_pos)
  obtain rfl : rest = [] := by
    rw [houter] at hrest
    exact List.map_eq_nil_iff.1 hrest
  refine ⟨e, ?_, ?_⟩
  · rw [parse, tokens, htokens]
    dsimp only
    rw [ofTokens_eq_ok_iff.2 hread]
  · rw [hpart.split, houter, List.append_nil]
    exact hpart.grouped

theorem chainText_nil (first : Operand) : chainText first [] = first.text := by
  rw [chainText, List.map_nil, String.join_nil, String.append_empty]

theorem parse_text (first : Operand) : parse first.text = .ok first.expr := by
  obtain ⟨e, hparse, hgrouped⟩ := exists_grouped first []
  rw [chainText_nil] at hparse
  rw [hparse, hgrouped.unique (.operand first)]

theorem parse_pipe (first : Operand) (before after : Blanks) (second : Operand) :
    parse (chainText first [⟨before, .pipe, after, second⟩]) =
      .ok (.chain first.expr second.expr) := by
  obtain ⟨e, hparse, hgrouped⟩ := exists_grouped first [⟨before, .pipe, after, second⟩]
  have hpipe : Grouped first ([] ++ [⟨before, .pipe, after, second⟩])
      (.chain first.expr second.expr) :=
    .join (.operand first) (.operand second) nofun nofun
  rw [hparse, hgrouped.unique hpipe]

theorem search_eq (regex : Regex.Engine) (operand : Operand) (data : Json) :
    search regex operand.query data = operand.expr.eval regex data := by
  rw [search, operand.reads]

/-- A chain is read as its one tree: an operand in parentheses is read as without them, and a pipe
searches with the second query in what the first one finds. -/
theorem parse_chain (regex : Regex.Engine) (first : Operand) :
    (∀ links : List Link, ∃ e, parse (chainText first links) = .ok e ∧
      ∀ e', Grouped first links e' ↔ e' = e) ∧
    parse first.text = parse first.query ∧
    ∀ (before after : Blanks) (second : Operand) (data : Json),
      search regex (chainText first [⟨before, .pipe, after, second⟩]) data =
        search regex first.query data >>= search regex second.query := by
  refine ⟨fun links => ?_, ?_, fun before after second data => ?_⟩
  · obtain ⟨e, hparse, hgrouped⟩ := exists_grouped first links
    refine ⟨e, hparse, fun e' => ⟨fun h => h.unique hgrouped, ?_⟩⟩
    rintro rfl
    exact hgrouped
  · rw [parse_text, first.reads]
  · have hsecond : search regex second.query = second.expr.eval regex :=
      funext (search_eq regex second)
    rw [search_eq, hsecond, search, parse_pipe]
    rfl

def fieldA : Operand := ⟨"a", .field "a", rfl⟩

def fieldB : Operand := ⟨"b", .field "b", rfl⟩

def fieldC : Operand := ⟨"c", .field "c", rfl⟩

def noBlanks : Blanks := ⟨"", by simp⟩

def blank : Blanks := ⟨" ", by simp [isSeparator]⟩

def spaced (op : Operator) (operand : Operand) : Link := ⟨blank, op, blank, operand⟩

def tight (op : Operator) (operand : Operand) : Link := ⟨noBlanks, op, noBlanks, operand⟩

/-- A comparison is grouped first, then the conjunctions from the left, the alternative, and the
pipe last of all. -/
theorem mixed_chain_read :
    parse "(a) | (b) || (c)&&(a) < (b)&&(c)" =
      .ok (.chain (.field "a") (.or (.field "b")
        (.and (.and (.field "c") (.comparison .lt (.field "a") (.field "b"))) (.field "c")))) ∧
    search Regex.linear "(a) | (b)" (.obj [("a", .obj [("b", .bool true)])]) =
      .ok (.bool true) := by
  obtain ⟨hread, -, hpipe⟩ := parse_chain Regex.linear fieldA
  constructor
  · obtain ⟨e, hparse, hunique⟩ := hread [spaced .pipe fieldB, spaced .or fieldC,
      tight .and fieldA, spaced (.comparison .lt) fieldB, tight .and fieldC]
    have hless : Grouped fieldA ([] ++ [spaced (.comparison .lt) fieldB]) _ :=
      .join (.operand fieldA) (.operand fieldB) nofun nofun
    have hfirst : Grouped fieldC ([] ++ tight .and fieldA :: _) _ :=
      .join (.operand fieldC) hless nofun (by decide)
    have hboth : Grouped fieldC (_ ++ [tight .and fieldC]) _ :=
      .join hfirst (.operand fieldC) (by decide) nofun
    have hor : Grouped fieldB ([] ++ spaced .or fieldC :: _) _ :=
      .join (.operand fieldB) hboth nofun (by decide)
    have hall : Grouped fieldA ([] ++ spaced .pipe fieldB :: _) _ :=
      .join (.operand fieldA) hor nofun (by decide)
    obtain rfl := (hunique _).1 hall
    exact hparse
  · refine (hpipe blank blank fieldB _).trans ?_
    rfl
end Caseflow.Query
