import Caseflow.Query.Eval
import Caseflow.Proofs.Outcome
import Caseflow.Proofs.Query.Parsed
import Caseflow.Regex.Search

/-!
# What makes a query fail

Evaluation goes from an expression to its parts, each with the document that it is evaluated
against, and stops at the first part that fails. Only calls and references fail of themselves. So
every failure is that of a call or a reference which the evaluation comes to, and a query without
either has a value on every document.
-/
namespace Caseflow.Query

variable {regex : Regex.Engine} {a b e d site : Expr} {data data' place v : Json} {err : Error}

/-- An expression has a value on a document. -/
def Expr.Evaluates (regex : Regex.Engine) (e : Expr) (data : Json) : Prop :=
  ∃ v, e.eval regex data = .ok v

/-- An expression that a call gets as it is. -/
def Expr.IsReference : Expr → Prop
  | .reference _ => True
  | _ => False

/-- To evaluate an expression against a document, a part of it is evaluated against another one.
All that comes before it has a value. -/
inductive Demands (regex : Regex.Engine) : Expr → Json → Expr → Json → Prop
  | first {a b : Expr} {data : Json} : Demands regex (.chain a b) data a data
  | second {a b : Expr} {data v : Json} (ha : a.eval regex data = .ok v) :
      Demands regex (.chain a b) data b v
  | source {a b : Expr} {data : Json} : Demands regex (.projection a b) data a data
  | item {a b : Expr} {data v : Json} {before after : List Json}
      (ha : a.eval regex data = .ok (.arr (before ++ v :: after)))
      (hbefore : ∀ w ∈ before, b.Evaluates regex w) : Demands regex (.projection a b) data b v
  | object {a : Expr} {data : Json} : Demands regex (.objectValues a) data a data
  | nested {a : Expr} {data : Json} : Demands regex (.flatten a) data a data
  | test {a b : Expr} {data : Json} : Demands regex (.condition a b) data a data
  | result {a b : Expr} {data v : Json} (ha : a.eval regex data = .ok v) (hv : v.isTruthy = true) :
      Demands regex (.condition a b) data b data
  | left {op : Comparator} {a b : Expr} {data : Json} :
      Demands regex (.comparison op a b) data a data
  | right {op : Comparator} {a b : Expr} {data : Json} (ha : a.Evaluates regex data) :
      Demands regex (.comparison op a b) data b data
  | andLeft {a b : Expr} {data : Json} : Demands regex (.and a b) data a data
  | andRight {a b : Expr} {data v : Json} (ha : a.eval regex data = .ok v)
      (hv : v.isTruthy = true) : Demands regex (.and a b) data b data
  | orLeft {a b : Expr} {data : Json} : Demands regex (.or a b) data a data
  | orRight {a b : Expr} {data v : Json} (ha : a.eval regex data = .ok v)
      (hv : v.isTruthy = false) : Demands regex (.or a b) data b data
  | negated {a : Expr} {data : Json} : Demands regex (.not a) data a data
  | listed {before after : List Expr} {a : Expr} {data : Json} (hdata : data.isNull = false)
      (hbefore : ∀ b ∈ before, b.Evaluates regex data) :
      Demands regex (.list (before ++ a :: after)) data a data
  | keyed {before after : List (String × Expr)} {k : String} {a : Expr} {data : Json}
      (hdata : data.isNull = false) (hbefore : ∀ p ∈ before, p.2.Evaluates regex data) :
      Demands regex (.hash (before ++ (k, a) :: after)) data a data
  | argument {name : String} {before after : List Expr} {a : Expr} {data : Json}
      (hbefore : ∀ b ∈ before, b.IsReference ∨ b.Evaluates regex data) (ha : ¬ a.IsReference) :
      Demands regex (.call name (before ++ a :: after)) data a data

/-- An expression fails of itself: a call whose arguments have been evaluated, or a reference that
is no argument. -/
inductive Raises (regex : Regex.Engine) : Expr → Json → Error → Prop
  | call {name : String} {args : List Expr} {data : Json} {arguments : List Argument} {err : Error}
      (hargs : evalArguments regex args data = .ok arguments)
      (hrun : Call.run regex ⟨name, arguments⟩ = .error err) :
      Raises regex (.call name args) data err
  | reference {e : Expr} {data : Json} : Raises regex (.reference e) data .strayReference

theorem Demands.mem_parts (h : Demands regex e data d data') : d ∈ e.parts := by
  cases h <;> simp [Expr.parts]

theorem evalList_eq_mapM (items : List Expr) (data : Json) :
    evalList regex items data = items.mapM (·.eval regex data) := by
  induction items with
  | nil => rfl
  | cons e es ih => rw [List.mapM_cons, ← ih, evalList]

theorem evalPairs_eq_mapM (pairs : List (String × Expr)) (data : Json) :
    evalPairs regex pairs data = pairs.mapM fun p => (p.1, ·) <$> p.2.eval regex data := by
  induction pairs with
  | nil => rfl
  | cons p ps ih => rw [List.mapM_cons, ← ih, evalPairs, bind_map_left]

def argumentOf (regex : Regex.Engine) (e : Expr) (data : Json) : Result Argument :=
  match e with
  | .reference e => .ok (.expression (e.eval regex))
  | e => .value <$> e.eval regex data

theorem evalArguments_eq_mapM (args : List Expr) (data : Json) :
    evalArguments regex args data = args.mapM (argumentOf regex · data) := by
  induction args with
  | nil => rfl
  | cons e es ih =>
    rw [List.mapM_cons, ← ih]
    cases e with
    | reference e => rfl
    | _ => simp [evalArguments, argumentOf]

theorem project_eq_mapM (f : Json → Result Json) (items : List Json) :
    project f items = List.filter (!·.isNull) <$> items.mapM f := by
  induction items with
  | nil => rfl
  | cons v vs ih =>
    rw [List.mapM_cons, project, ih, map_bind]
    refine congrArg _ (funext fun result => ?_)
    rw [bind_map_left, map_bind]
    refine congrArg _ (funext fun results => ?_)
    cases hnull : result.isNull <;> simp [hnull]

theorem argumentOf_eq (h : ¬ e.IsReference) :
    argumentOf regex e data = .value <$> e.eval regex data := by
  cases e with
  | reference e => exact absurd trivial h
  | _ => rfl

theorem exists_argumentOf_iff :
    (∃ x, argumentOf regex e data = .ok x) ↔ e.IsReference ∨ e.Evaluates regex data := by
  by_cases he : e.IsReference
  · cases e with
    | reference e => exact iff_of_true ⟨_, rfl⟩ (.inl trivial)
    | _ => cases he
  · rw [argumentOf_eq he, or_iff_right he]
    simp only [map_eq_ok_iff]
    exact ⟨fun ⟨_, v, hv, _⟩ => ⟨v, hv⟩, fun ⟨v, hv⟩ => ⟨_, v, hv, rfl⟩⟩

theorem argumentOf_eq_error_iff :
    argumentOf regex e data = .error err ↔ ¬ e.IsReference ∧ e.eval regex data = .error err := by
  by_cases he : e.IsReference
  · cases e with
    | reference e => exact iff_of_false nofun fun h => h.1 trivial
    | _ => cases he
  · rw [argumentOf_eq he, map_eq_error_iff, and_iff_right he]

theorem Raises.eval (h : Raises regex e data err) : e.eval regex data = .error err := by
  cases h with
  | call hargs hrun =>
    rw [Expr.eval, hargs]
    exact hrun
  | reference => rfl

/-- Where a part that is evaluated fails, the whole fails with it. -/
theorem Demands.eval (h : Demands regex e data d data') (hd : d.eval regex data' = .error err) :
    e.eval regex data = .error err := by
  cases h with
  | first | source | object | nested | test | left | andLeft | orLeft | negated =>
    rw [Expr.eval]
    exact bind_eq_error_iff.2 (.inl hd)
  | second ha =>
    rw [Expr.eval]
    exact bind_eq_error_iff.2 (.inr ⟨_, ha, hd⟩)
  | item ha hbefore =>
    rw [Expr.eval]
    refine bind_eq_error_iff.2 (.inr ⟨_, ha, bind_eq_error_iff.2 (.inl ?_)⟩)
    rw [project_eq_mapM, map_eq_error_iff]
    exact mapM_eq_error_iff.2 ⟨_, _, _, rfl, hbefore, hd⟩
  | result ha hv | andRight ha hv =>
    rw [Expr.eval]
    exact bind_eq_error_iff.2 (.inr ⟨_, ha, (if_pos hv).trans hd⟩)
  | right ha =>
    obtain ⟨v, ha⟩ := ha
    rw [Expr.eval]
    exact bind_eq_error_iff.2 (.inr ⟨v, ha, bind_eq_error_iff.2 (.inl hd)⟩)
  | orRight ha hv =>
    rw [Expr.eval]
    exact bind_eq_error_iff.2 (.inr ⟨_, ha, (if_neg (by simp [hv])).trans hd⟩)
  | listed hdata hbefore =>
    rw [Expr.eval, if_neg (by simp [hdata]), evalList_eq_mapM]
    exact bind_eq_error_iff.2 (.inl (mapM_eq_error_iff.2 ⟨_, _, _, rfl, hbefore, hd⟩))
  | keyed hdata hbefore =>
    rw [Expr.eval, if_neg (by simp [hdata]), evalPairs_eq_mapM]
    refine bind_eq_error_iff.2 (.inl (mapM_eq_error_iff.2 ⟨_, _, _, rfl, ?_, ?_⟩))
    · intro p hp
      obtain ⟨v, hv⟩ := hbefore p hp
      exact ⟨(p.1, v), map_eq_ok_iff.2 ⟨v, hv, rfl⟩⟩
    · exact map_eq_error_iff.2 hd
  | argument hbefore ha =>
    rw [Expr.eval, evalArguments_eq_mapM]
    exact bind_eq_error_iff.2 (.inl (mapM_eq_error_iff.2 ⟨_, _, _, rfl,
      fun b hb => exists_argumentOf_iff.2 (hbefore b hb), argumentOf_eq_error_iff.2 ⟨ha, hd⟩⟩))

/-- A failure of an expression is its own, or that of a part which it has evaluated. -/
def Explained (regex : Regex.Engine) (e : Expr) (data : Json) (err : Error) : Prop :=
  Raises regex e data err ∨
    ∃ d data', Demands regex e data d data' ∧ d.eval regex data' = .error err

theorem Demands.explains (h : Demands regex e data d data')
    (hd : d.eval regex data' = .error err) : Explained regex e data err :=
  .inr ⟨d, data', h, hd⟩

/-- Where a part comes first, either it fails or what is made of its value does. -/
theorem Demands.explains_bind {f : Json → Result Json} (h : Demands regex e data d data')
    (hbind : d.eval regex data' >>= f = .error err)
    (hrest : ∀ v, d.eval regex data' = .ok v → f v = .error err → Explained regex e data err) :
    Explained regex e data err := by
  obtain hd | ⟨v, hd, hv⟩ := bind_eq_error_iff.1 hbind
  · exact h.explains hd
  · exact hrest v hd hv

theorem explained_list {items : List Expr} (h : (Expr.list items).eval regex data = .error err) :
    Explained regex (.list items) data err := by
  rw [Expr.eval] at h
  split at h
  · cases h
  · rename_i hdata
    obtain hlist | ⟨_, -, hdone⟩ := bind_eq_error_iff.1 h
    · rw [evalList_eq_mapM] at hlist
      obtain ⟨before, a, after, rfl, hbefore, ha⟩ := mapM_eq_error_iff.1 hlist
      exact (Demands.listed (by simpa using hdata) hbefore).explains ha
    · cases hdone

theorem explained_hash {pairs : List (String × Expr)}
    (h : (Expr.hash pairs).eval regex data = .error err) :
    Explained regex (.hash pairs) data err := by
  rw [Expr.eval] at h
  split at h
  · cases h
  · rename_i hdata
    obtain hpairs | ⟨_, -, hdone⟩ := bind_eq_error_iff.1 h
    · rw [evalPairs_eq_mapM] at hpairs
      obtain ⟨before, ⟨k, a⟩, after, rfl, hbefore, ha⟩ := mapM_eq_error_iff.1 hpairs
      have hvalues : ∀ p ∈ before, p.2.Evaluates regex data := by
        intro p hp
        obtain ⟨_, hvalue⟩ := hbefore p hp
        obtain ⟨v, hv, -⟩ := map_eq_ok_iff.1 hvalue
        exact ⟨v, hv⟩
      exact (Demands.keyed (by simpa using hdata) hvalues).explains (map_eq_error_iff.1 ha)
    · cases hdone

theorem explained_call {name : String} {args : List Expr}
    (h : (Expr.call name args).eval regex data = .error err) :
    Explained regex (.call name args) data err := by
  rw [Expr.eval] at h
  obtain hargs | ⟨arguments, hargs, hrun⟩ := bind_eq_error_iff.1 h
  · rw [evalArguments_eq_mapM] at hargs
    obtain ⟨before, a, after, rfl, hbefore, ha⟩ := mapM_eq_error_iff.1 hargs
    obtain ⟨hvalue, ha⟩ := argumentOf_eq_error_iff.1 ha
    have hfirst : ∀ b ∈ before, b.IsReference ∨ b.Evaluates regex data := fun b hb =>
      exists_argumentOf_iff.1 (hbefore b hb)
    exact (Demands.argument hfirst hvalue).explains ha
  · exact .inl (.call hargs hrun)

theorem explained_projection (h : (Expr.projection a b).eval regex data = .error err) :
    Explained regex (.projection a b) data err := by
  rw [Expr.eval] at h
  refine Demands.source.explains_bind h fun v ha hb => ?_
  cases v with
  | arr items =>
    obtain hproject | ⟨_, -, hdone⟩ := bind_eq_error_iff.1 hb
    · rw [project_eq_mapM, map_eq_error_iff] at hproject
      obtain ⟨before, v, after, rfl, hbefore, hv⟩ := mapM_eq_error_iff.1 hproject
      exact (Demands.item ha hbefore).explains hv
    · cases hdone
  | _ => cases hb

/-- Every failure is explained. One case per kind of expression. -/
theorem explained_of_eval (h : e.eval regex data = .error err) : Explained regex e data err := by
  cases e with
  | identity | field name | literal v => cases h
  | index i | slice b => cases data <;> cases h
  | reference e =>
    cases h
    exact .inl .reference
  | list items => exact explained_list h
  | hash pairs => exact explained_hash h
  | call name args => exact explained_call h
  | projection a b => exact explained_projection h
  | chain a b =>
    rw [Expr.eval] at h
    exact Demands.first.explains_bind h fun v ha hb => (Demands.second ha).explains hb
  | objectValues a =>
    rw [Expr.eval] at h
    exact Demands.object.explains_bind h fun v _ hdone => by cases v <;> cases hdone
  | flatten a =>
    rw [Expr.eval] at h
    exact Demands.nested.explains_bind h fun v _ hdone => by cases v <;> cases hdone
  | not a =>
    rw [Expr.eval] at h
    exact Demands.negated.explains_bind h fun v _ hdone => by cases hdone
  | comparison op a b =>
    rw [Expr.eval] at h
    refine Demands.left.explains_bind h fun v ha hb => ?_
    exact (Demands.right ⟨v, ha⟩).explains_bind hb fun w _ hdone => by cases hdone
  | condition a b =>
    rw [Expr.eval] at h
    refine Demands.test.explains_bind h fun v ha hb => ?_
    split at hb
    · rename_i hv
      exact (Demands.result ha hv).explains hb
    · cases hb
  | and a b =>
    rw [Expr.eval] at h
    refine Demands.andLeft.explains_bind h fun v ha hb => ?_
    split at hb
    · rename_i hv
      exact (Demands.andRight ha hv).explains hb
    · cases hb
  | or a b =>
    rw [Expr.eval] at h
    refine Demands.orLeft.explains_bind h fun v ha hb => ?_
    split at hb
    · cases hb
    · rename_i hv
      exact (Demands.orRight ha (by simpa using hv)).explains hb

/-- The evaluation of an expression comes to an expression in it and the document for that. -/
inductive Reaches (regex : Regex.Engine) : Expr → Json → Expr → Json → Prop
  | here {e : Expr} {data : Json} : Reaches regex e data e data
  | step {e d site : Expr} {data data' place : Json} (h : Demands regex e data d data')
      (hrest : Reaches regex d data' site place) : Reaches regex e data site place

/-- An evaluation fails exactly if it comes to a call or a reference that fails so of itself. By
induction on the expression alone, as each part has a document of its own. -/
theorem eval_eq_error_iff :
    e.eval regex data = .error err ↔
      ∃ site place, Reaches regex e data site place ∧ Raises regex site place err := by
  constructor
  · intro h
    induction e using Expr.parts_induction generalizing data with
    | step e ih =>
      obtain hraises | ⟨d, data', hdemands, hd⟩ := explained_of_eval h
      · exact ⟨e, data, .here, hraises⟩
      · obtain ⟨site, place, hreaches, hraises⟩ := ih d hdemands.mem_parts hd
        exact ⟨site, place, .step hdemands hreaches, hraises⟩
  · rintro ⟨site, place, hreaches, hraises⟩
    induction hreaches with
    | here => exact hraises.eval
    | step hdemands _ ih => exact hdemands.eval (ih hraises)

theorem Everywhere.reached {p : Expr → Prop} (h : Everywhere p e)
    (hreaches : Reaches regex e data site place) : p site := by
  induction hreaches with
  | here => exact h.here
  | step hdemands _ ih => exact ih (h.part hdemands.mem_parts)

def Expr.IsSafe : Expr → Prop
  | .call _ _ | .reference _ => False
  | _ => True

theorem Raises.not_isSafe (h : Raises regex e data err) : ¬ e.IsSafe := by
  cases h <;> exact id

/-- An expression in which there are neither calls nor references. -/
abbrev Plain : Expr → Prop := Everywhere Expr.IsSafe

theorem Plain.evaluates (h : Plain e) (data : Json) : e.Evaluates regex data := by
  cases heval : e.eval regex data with
  | ok v => exact ⟨v, heval⟩
  | error err =>
    obtain ⟨site, place, hreaches, hraises⟩ := eval_eq_error_iff.1 heval
    exact absurd (h.reached hreaches) hraises.not_isSafe

/-- A query without calls and references has a value on every document. In general a query fails
exactly if its evaluation comes to a call or a reference that fails so of itself, and every slice
that it comes to exists, as far as lists go that can be counted with 64 bits. -/
theorem evaluates_or_raises (regex : Regex.Engine) {query : String} (h : parse query = .ok e)
    (data : Json) :
    (Plain e → ∃ v, search regex query data = .ok v) ∧
      (∀ err, search regex query data = .error err ↔
        ∃ site place, Reaches regex e data site place ∧ Raises regex site place err) ∧
      ∀ b items, Reaches regex e data (.slice b) (.arr items) →
        (items.length : Int) ≤ Number.maxSigned → ∃ selected, slice? b items = some selected := by
  have hsearch : search regex query data = e.eval regex data := by rw [search, h]
  rw [hsearch]
  refine ⟨fun hplain => hplain.evaluates data, fun err => eval_eq_error_iff, ?_⟩
  intro b items hreaches hlength
  exact exists_slice? ((bounded_of_parse h).reached hreaches) hlength

def demandingQuery : String := "a[?b].[c[-1], !d] || e[::2]"

def demandingTokens : List Located :=
  [⟨0, .identifier "a"⟩, ⟨1, .filter⟩, ⟨3, .identifier "b"⟩, ⟨4, .rbracket⟩, ⟨5, .dot⟩,
    ⟨6, .lbracket⟩, ⟨7, .identifier "c"⟩, ⟨8, .lbracket⟩, ⟨9, .number (-1)⟩, ⟨11, .rbracket⟩,
    ⟨12, .comma⟩, ⟨14, .not⟩, ⟨15, .identifier "d"⟩, ⟨16, .rbracket⟩, ⟨18, .or⟩,
    ⟨21, .identifier "e"⟩, ⟨22, .lbracket⟩, ⟨23, .colon⟩, ⟨24, .colon⟩, ⟨25, .number 2⟩,
    ⟨26, .rbracket⟩]

def demandingExpr : Expr :=
  .or
    (.projection (.field "a")
      (.condition (.field "b") (.list [.chain (.field "c") (.index (-1)), .not (.field "d")])))
    (.projection (.chain (.field "e") (.slice ⟨none, none, some 2⟩)) .identity)

theorem parse_demandingQuery : parse demandingQuery = .ok demandingExpr := by
  have htokens : tokens demandingQuery = .ok demandingTokens := by rfl
  have hread : ofTokens demandingTokens = .ok demandingExpr := by rfl
  exact parse_eq_ok_iff.2 ⟨demandingTokens, htokens, hread⟩

theorem plain_demandingExpr : Plain demandingExpr := by
  have hfield (name : String) : Plain (.field name) := .leaf trivial rfl
  have hindex : Plain (.chain (.field "c") (.index (-1))) :=
    .two trivial rfl (hfield "c") (.leaf trivial rfl)
  have hitems : Plain (.list [.chain (.field "c") (.index (-1)), .not (.field "d")]) :=
    .intro trivial (List.forall_mem_cons.2
      ⟨hindex, List.forall_mem_singleton.2 (.one trivial rfl (hfield "d"))⟩)
  have hslice : Plain (.chain (.field "e") (.slice ⟨none, none, some 2⟩)) :=
    .two trivial rfl (hfield "e") (.leaf trivial rfl)
  exact .two trivial rfl
    (.two trivial rfl (hfield "a") (.two trivial rfl (hfield "b") hitems))
    (.two trivial rfl hslice (.leaf trivial rfl))

/-- A query that asks for items, fields and positions has a value where there is only a text. -/
theorem demanding_query_evaluates :
    parse demandingQuery = .ok demandingExpr ∧ Plain demandingExpr ∧
      ∃ v, search Regex.linear demandingQuery (.str "none") = .ok v :=
  ⟨parse_demandingQuery, plain_demandingExpr,
    (evaluates_or_raises Regex.linear parse_demandingQuery _).1 plain_demandingExpr⟩

end Caseflow.Query
