import Caseflow.Query.Parser
import Caseflow.Proofs.Outcome

/-!
# Reading up to a closing parenthesis

What is read from tokens alone is read from the same tokens wherever they stand, at the end or with
a closing parenthesis and anything else behind them. The readers that look ahead do so to find an
operator or a bracket, and at a closing parenthesis they go on as they do at the end. More fuel does
not change what is read.
-/
namespace Caseflow.Query

open Reader

variable {α β : Type} {tail ts us : List Located} {t u : Located}

/-- The tokens `ts`, wherever they stand in their text, with `tail` behind them. -/
def Continued (tail ts us : List Located) : Prop :=
  ∃ vs, us = vs ++ tail ∧ vs.map (·.token) = ts.map (·.token)

theorem continued_nil : Continued tail [] us ↔ us = tail := by
  constructor
  · rintro ⟨vs, rfl, hvs⟩
    rw [List.map_eq_nil_iff.1 hvs, List.nil_append]
  · rintro rfl
    exact ⟨[], rfl, rfl⟩

theorem Continued.cons (h : Continued tail ts us) (hu : u.token = t.token) :
    Continued tail (t :: ts) (u :: us) := by
  obtain ⟨vs, rfl, hvs⟩ := h
  exact ⟨u :: vs, rfl, by rw [List.map_cons, List.map_cons, hu, hvs]⟩

theorem Continued.exists_of_cons (h : Continued tail (t :: ts) us) :
    ∃ u vs, us = u :: vs ∧ u.token = t.token ∧ Continued tail ts vs := by
  obtain ⟨vs, rfl, hvs⟩ := h
  obtain ⟨u, vs, rfl, hu, htokens⟩ := List.map_eq_cons_iff.1 hvs
  exact ⟨u, vs ++ tail, rfl, hu, vs, rfl, htokens⟩

/-- Where the first outcome is a success, the second is one with the same value, and with more
behind the tokens that are left. -/
def Follows (tail : List Located) (x y : Except Stop (α × List Located)) : Prop :=
  ∀ a rest, x = .ok (a, rest) → ∃ rest', y = .ok (a, rest') ∧ Continued tail rest rest'

theorem follows_error (stop : Stop) (y : Except Stop (α × List Located)) :
    Follows tail (.error stop) y := nofun

/-- What the first reader makes of `ts`, the second makes of `us`. -/
def AgreesAt (tail ts us : List Located) (r s : Reader α) : Prop := Follows tail (r ts) (s us)

/-- What the first reader makes of any tokens, the second makes of them with more behind them. -/
def Agrees (tail : List Located) (r s : Reader α) : Prop :=
  ∀ ts us, Continued tail ts us → AgreesAt tail ts us r s

theorem agrees_pure (a : α) : Agrees tail (pure a) (pure a) := by
  rintro ts us h b rest ⟨⟩
  exact ⟨us, rfl, h⟩

theorem agrees_fail (message : String) (s : Reader α) : Agrees tail (fail message) s :=
  fun _ _ _ => follows_error _ _

theorem agrees_failBefore (token : Located) (message : String) (s : Reader α) :
    Agrees tail (failBefore token message) s :=
  fun _ _ _ => follows_error _ _

theorem agrees_depleted (s : Reader α) : Agrees tail depleted s :=
  fun _ _ _ => follows_error _ _

theorem run_bind (r : Reader α) (f : α → Reader β) (ts : List Located) :
    (r >>= f) ts = r ts >>= fun p => f p.1 p.2 := rfl

theorem Agrees.bind {r s : Reader α} {f g : α → Reader β} (h : Agrees tail r s)
    (hf : ∀ a, Agrees tail (f a) (g a)) : Agrees tail (r >>= f) (s >>= g) := by
  intro ts us hus b rest hb
  rw [run_bind] at hb ⊢
  obtain ⟨⟨a, mid⟩, ha, hb⟩ := bind_eq_ok_iff.1 hb
  obtain ⟨mid', ha', hmid⟩ := h ts us hus a mid ha
  rw [ha']
  exact hf a mid mid' hmid b rest hb

/-- A reader that returns something made of what it reads. -/
theorem Agrees.map {r s : Reader α} (h : Agrees tail r s) (f : α → β) :
    Agrees tail (r >>= fun a => pure (f a)) (s >>= fun a => pure (f a)) :=
  h.bind fun a => agrees_pure (f a)

/-- Reading at the end and reading at a token are looked at apart. -/
theorem agrees_of_cases {r s : Reader α} (hend : AgreesAt tail [] tail r s)
    (hcons : ∀ t u ts us, u.token = t.token → Continued tail ts us →
      AgreesAt tail (t :: ts) (u :: us) r s) : Agrees tail r s := by
  intro ts us h
  cases ts with
  | nil =>
    obtain rfl := continued_nil.1 h
    exact hend
  | cons t ts =>
    obtain ⟨u, vs, rfl, hu, hvs⟩ := h.exists_of_cons
    exact hcons t u ts vs hu hvs

theorem agrees_next {f g : Located → Reader β}
    (hf : ∀ t u : Located, u.token = t.token → Agrees tail (f t) (g u)) :
    Agrees tail (next >>= f) (next >>= g) :=
  agrees_of_cases (follows_error _ _) fun t u ts us hu h => hf t u hu ts us h

theorem agrees_expect (token : Token) : Agrees tail (expect token) (expect token) := by
  refine agrees_next fun t u hu => ?_
  rw [hu]
  split
  · exact agrees_pure ()
  · exact agrees_fail _ _

theorem agrees_indexParts (parts : List (Option Int)) :
    Agrees tail (indexParts parts) (indexParts parts) := by
  intro ts us h
  unfold AgreesAt
  induction ts generalizing parts us with
  | nil => exact follows_error _ _
  | cons t ts ih =>
    obtain ⟨u, vs, rfl, hu, hvs⟩ := h.exists_of_cons
    unfold indexParts
    rw [hu]
    split
    · exact follows_error _ _
    · exact ih _ vs hvs
    · split
      · exact ih _ vs hvs
      · exact follows_error _ _
    · rintro b rest ⟨⟩
      exact ⟨vs, rfl, hvs⟩
    · exact follows_error _ _

/-- No tokens, or a closing parenthesis and others. -/
def Closes (tail : List Located) : Prop := ∀ t ∈ tail.head?, t.token = .rparen

theorem closes_nil : Closes [] := nofun

theorem closes_cons {close : Located} (h : close.token = .rparen) : Closes (close :: tail) := by
  rintro _ ⟨⟩
  exact h

theorem Closes.head (h : Closes tail) :
    tail.head?.map (·.token) = none ∨ tail.head?.map (·.token) = some .rparen := by
  cases tail with
  | nil => exact .inl rfl
  | cons t tail => exact .inr (congrArg some (h t rfl))

theorem agrees_peek {f g : Option Token → Reader β}
    (hend : AgreesAt tail [] tail (f none) (g (tail.head?.map (·.token))))
    (hf : ∀ t u ts us, u.token = t.token → Continued tail ts us →
      AgreesAt tail (t :: ts) (u :: us) (f (some t.token)) (g (some t.token))) :
    Agrees tail (peek >>= f) (peek >>= g) := by
  refine agrees_of_cases hend fun t u ts us hu h => ?_
  change Follows tail (f (some t.token) (t :: ts)) (g (some u.token) (u :: us))
  rw [hu]
  exact hf t u ts us hu h

/-- An index or a slice, all items, or something else, by the two tokens ahead. -/
def bracketed (ahead : Option Token × Option Token) (index all other : α) : α :=
  match ahead with
  | (some (.number _), _) | (some .colon, _) => index
  | (some .star, some .rbracket) => all
  | _ => other

theorem bracketed_none (o : Option Token) (index all other : α) :
    bracketed (o, none) index all other = bracketed (o, some .rparen) index all other := by
  unfold bracketed
  split <;> simp_all

theorem agrees_bracketed (hclose : Closes tail)
    {index all other index' all' other' : Reader β} (hindex : Agrees tail index index')
    (hall : Agrees tail all all') (hother : Agrees tail other other') :
    Agrees tail
      (peekTwo >>= fun ahead => bracketed ahead index (drop 2 >>= fun _ => all) other)
      (peekTwo >>= fun ahead => bracketed ahead index' (drop 2 >>= fun _ => all') other') := by
  refine agrees_of_cases ?_ fun t u ts us hu h => ?_
  · change AgreesAt tail [] tail other (bracketed (tail.head?.map (·.token), _) _ _ _)
    obtain hhead | hhead := hclose.head <;> rw [hhead] <;>
      exact hother [] tail (continued_nil.2 rfl)
  · have hhere := h.cons hu
    cases ts with
    | nil =>
      obtain rfl := continued_nil.1 h
      change AgreesAt us [t] (u :: us) (bracketed (some t.token, none) _ _ _)
        (bracketed (some u.token, us.head?.map (·.token)) _ _ _)
      have hbehind (index all other : Reader β) :
          bracketed (some t.token, us.head?.map (·.token)) index all other =
            bracketed (some t.token, none) index all other := by
        obtain hhead | hhead := hclose.head
        · rw [hhead]
        · rw [hhead, bracketed_none]
      rw [hu, hbehind]
      unfold bracketed
      split
      case h_3 hnone => exact absurd (Prod.mk.inj hnone).2 nofun
      case h_4 => exact hother _ _ hhere
      all_goals exact hindex _ _ hhere
    | cons t' ts =>
      obtain ⟨u', us, rfl, hu', hrest⟩ := h.exists_of_cons
      change AgreesAt tail (t :: t' :: ts) (u :: u' :: us)
        (bracketed (some t.token, some t'.token) _ _ _)
        (bracketed (some u.token, some u'.token) _ _ _)
      rw [hu, hu']
      unfold bracketed
      split
      case h_3 => exact hall ts us hrest
      case h_4 => exact hother _ _ hhere
      all_goals exact hindex _ _ hhere

theorem agrees_peekPower (hclose : Closes tail)
    {f g : Nat → Reader β} (hf : ∀ power, Agrees tail (f power) (g power)) :
    Agrees tail (peekPower >>= f) (peekPower >>= g) := by
  refine agrees_of_cases ?_ fun t u ts us hu h => ?_
  · have hpower : (tail.head?.map (·.token.power)).getD 0 = 0 := by
      cases tail with
      | nil => rfl
      | cons close tail => exact congrArg Token.power (hclose close rfl)
    change Follows tail (f 0 []) (g ((tail.head?.map (·.token.power)).getD 0) tail)
    rw [hpower]
    exact hf 0 [] tail (continued_nil.2 rfl)
  · change Follows tail (f t.token.power (t :: ts)) (g u.token.power (u :: us))
    rw [hu]
    exact hf _ _ _ (h.cons hu)

section Productions

variable {sub sub' : Nat → Reader Expr} {fuel fuel' : Nat}

/-- Two readers of expressions that agree before `tail`, at which both end. Like all of them they
need a token. -/
structure Agreement (tail : List Located) (sub sub' : Nat → Reader Expr) : Prop where
  closed : Closes tail
  agrees (power : Nat) : Agrees tail (sub power) (sub' power)
  needs (power : Nat) (out : Expr × List Located) : sub power [] ≠ .ok out

namespace Agreement

theorem itemsUntil (h : Agreement tail sub sub') (close : Token) (fault : Token → String)
    (hfuel : fuel ≤ fuel') (acc : List Expr) :
    Agrees tail (itemsUntil sub close fault fuel acc) (itemsUntil sub' close fault fuel' acc) := by
  induction fuel generalizing fuel' acc with
  | zero => exact agrees_depleted _
  | succ fuel ih =>
    obtain ⟨fuel', rfl⟩ := Nat.exists_eq_succ_of_ne_zero (Nat.ne_zero_of_lt hfuel)
    refine (h.agrees 0).bind fun item => agrees_next fun t u hu => ?_
    rw [hu]
    split
    · exact ih (Nat.le_of_succ_le_succ hfuel) _
    · split
      · exact agrees_pure _
      · exact agrees_fail _ _

theorem itemsUntil_needs (h : Agreement tail sub sub') (close : Token) (fault : Token → String)
    (fuel : Nat) (acc : List Expr) (out : List Expr × List Located) :
    Query.itemsUntil sub close fault fuel acc [] ≠ .ok out := by
  cases fuel with
  | zero => exact nofun
  | succ fuel =>
    intro hout
    rw [Query.itemsUntil, run_bind] at hout
    obtain ⟨item, hitem, -⟩ := bind_eq_ok_iff.1 hout
    exact h.needs 0 item hitem

theorem listItems (h : Agreement tail sub sub') (hfuel : fuel ≤ fuel') :
    Agrees tail (listItems sub fuel) (listItems sub' fuel') :=
  (h.itemsUntil _ _ hfuel _).map Expr.list

theorem hashPairs (h : Agreement tail sub sub') (hfuel : fuel ≤ fuel')
    (acc : List (String × Expr)) :
    Agrees tail (hashPairs sub fuel acc) (hashPairs sub' fuel' acc) := by
  induction fuel generalizing fuel' acc with
  | zero => exact agrees_depleted _
  | succ fuel ih =>
    obtain ⟨fuel', rfl⟩ := Nat.exists_eq_succ_of_ne_zero (Nat.ne_zero_of_lt hfuel)
    refine agrees_next fun t u hu => ?_
    rw [hu]
    split
    case h_1 key | h_2 key =>
      refine (agrees_expect _).bind fun _ => (h.agrees 0).bind fun value =>
        agrees_next fun t u hu => ?_
      rw [hu]
      split
      · exact ih (Nat.le_of_succ_le_succ hfuel) _
      · exact agrees_pure _
      · exact agrees_fail _ _
    case h_3 => exact agrees_fail _ _

theorem afterDot (h : Agreement tail sub sub') (hfuel : fuel ≤ fuel') (power : Nat) :
    Agrees tail (afterDot sub fuel power) (afterDot sub' fuel' power) := by
  refine agrees_peek (follows_error _ _) fun t u ts us hu hus => ?_
  split
  case h_6 => exact h.listItems hfuel ts us hus
  case h_7 => exact follows_error _ _
  all_goals exact h.agrees power _ _ (hus.cons hu)

theorem projected (h : Agreement tail sub sub') (hfuel : fuel ≤ fuel') (power : Nat) :
    Agrees tail (projected sub fuel power) (projected sub' fuel' power) := by
  refine agrees_peek ?_ fun t u ts us hu hus => ?_
  · obtain hhead | hhead := h.closed.head <;> rw [hhead] <;>
      exact agrees_pure _ _ _ (continued_nil.2 rfl)
  · dsimp only
    split
    · exact agrees_pure _ _ _ (hus.cons hu)
    · split
      · exact h.afterDot hfuel power ts us hus
      case h_5 => exact follows_error _ _
      all_goals exact h.agrees power _ _ (hus.cons hu)

theorem valuesOf (h : Agreement tail sub sub') (hfuel : fuel ≤ fuel') (left : Expr) :
    Agrees tail (valuesOf sub fuel left) (valuesOf sub' fuel' left) :=
  (h.projected hfuel _).map _

theorem eachOf (h : Agreement tail sub sub') (hfuel : fuel ≤ fuel') (left : Expr) :
    Agrees tail (eachOf sub fuel left) (eachOf sub' fuel' left) :=
  (h.projected hfuel _).map _

theorem flattened (h : Agreement tail sub sub') (hfuel : fuel ≤ fuel') (left : Expr) :
    Agrees tail (flattened sub fuel left) (flattened sub' fuel' left) :=
  (h.projected hfuel _).map _

theorem filtered (h : Agreement tail sub sub') (hfuel : fuel ≤ fuel') (left : Expr) :
    Agrees tail (filtered sub fuel left) (filtered sub' fuel' left) :=
  (h.agrees 0).bind fun _ => (agrees_expect _).bind fun _ => (h.projected hfuel _).map _

theorem indexed (h : Agreement tail sub sub') (hfuel : fuel ≤ fuel') (left : Expr) :
    Agrees tail (indexed sub fuel left) (indexed sub' fuel' left) := by
  refine (agrees_indexParts _).bind fun parts => ?_
  split
  · exact agrees_pure _
  · dsimp only
    split
    · exact agrees_fail _ _
    · exact h.eachOf hfuel _
  · exact agrees_fail _ _

/-- A call's arguments need its own closing parenthesis, so the one behind does not end them. -/
theorem callArguments (h : Agreement tail sub sub') (hfuel : fuel ≤ fuel') (left : Expr) :
    Agrees tail (callArguments sub fuel left) (callArguments sub' fuel' left) := by
  unfold Query.callArguments
  split
  · refine agrees_peek ?_ fun t u ts us hu hus => ?_
    · rintro call rest hcall
      obtain ⟨items, hitems, -⟩ := bind_eq_ok_iff.1 hcall
      exact absurd hitems (h.itemsUntil_needs _ _ _ _ _)
    · split
      · exact agrees_pure _ ts us hus
      · exact ((h.itemsUntil _ _ hfuel _).map _) _ _ (hus.cons hu)
  · exact agrees_fail _ _

theorem operand (h : Agreement tail sub sub') (hfuel : fuel ≤ fuel') :
    Agrees tail (operand sub fuel) (operand sub' fuel') := by
  refine agrees_next fun t u hu => ?_
  rw [hu]
  split
  · exact agrees_pure _
  · exact agrees_pure _
  · refine agrees_peek ?_ fun t u ts us hu hus => ?_
    · obtain hhead | hhead := h.closed.head <;> rw [hhead] <;>
        exact agrees_pure _ _ _ (continued_nil.2 rfl)
    · split
      · exact follows_error _ _
      · exact agrees_pure _ _ _ (hus.cons hu)
  · exact agrees_pure _
  · exact agrees_pure _
  · exact h.valuesOf hfuel _
  · exact h.flattened hfuel _
  · exact h.filtered hfuel _
  · exact h.hashPairs hfuel _
  · exact agrees_bracketed h.closed (h.indexed hfuel _) (h.eachOf hfuel _) (h.listItems hfuel)
  · exact (h.agrees 0).map _
  · exact (h.agrees _).map _
  · exact (h.agrees 0).bind fun inner => (agrees_expect _).bind fun _ => agrees_pure _
  · exact agrees_failBefore _ _ _

theorem extension (h : Agreement tail sub sub') (hfuel : fuel ≤ fuel') (left : Expr) :
    Agrees tail (extension sub fuel left) (extension sub' fuel' left) := by
  refine agrees_next fun t u hu => ?_
  rw [hu]
  split
  · exact (h.afterDot hfuel _).map _
  · exact agrees_bracketed h.closed (h.indexed hfuel _) (h.eachOf hfuel _) (agrees_fail _ _)
  · exact h.flattened hfuel _
  · exact h.filtered hfuel _
  · exact (h.agrees _).map _
  · exact (h.agrees _).map _
  · exact (h.agrees _).map _
  · exact h.callArguments hfuel _
  · exact (h.agrees _).map _
  · exact agrees_failBefore _ _ _

theorem extend (h : Agreement tail sub sub') (hfuel : fuel ≤ fuel') (power : Nat) (left : Expr) :
    Agrees tail (extend sub power fuel left) (extend sub' power fuel' left) := by
  induction fuel generalizing fuel' left with
  | zero => exact agrees_depleted _
  | succ fuel ih =>
    obtain ⟨fuel', rfl⟩ := Nat.exists_eq_succ_of_ne_zero (Nat.ne_zero_of_lt hfuel)
    have hfuel := Nat.le_of_succ_le_succ hfuel
    refine agrees_peekPower h.closed fun ahead => ?_
    split
    · exact (h.extension hfuel left).bind fun longer => ih hfuel longer
    · exact agrees_pure _

end Agreement

end Productions

theorem agreement_expression (hclose : Closes tail)
    {fuel fuel' : Nat} (hfuel : fuel ≤ fuel') :
    Agreement tail (expression fuel) (expression fuel') := by
  induction fuel generalizing fuel' with
  | zero => exact ⟨hclose, fun _ => agrees_depleted _, fun _ _ => nofun⟩
  | succ fuel ih =>
    obtain ⟨fuel', rfl⟩ := Nat.exists_eq_succ_of_ne_zero (Nat.ne_zero_of_lt hfuel)
    have hfuel := Nat.le_of_succ_le_succ hfuel
    refine ⟨hclose, fun power => ?_, fun _ _ => nofun⟩
    exact ((ih hfuel).operand hfuel).bind fun left => (ih hfuel).extend hfuel power left

theorem ofTokens_eq_ok_iff {e : Expr} :
    ofTokens ts = .ok e ↔ expression (ts.length + 1) 0 ts = .ok (e, []) := by
  unfold ofTokens
  split <;> simp_all

/-- Tokens that are one expression are read as that wherever they stand, up to what closes them. -/
theorem expression_append {e : Expr} {vs : List Located} {fuel : Nat} (hts : ofTokens ts = .ok e)
    (hvs : vs.map (·.token) = ts.map (·.token)) (hclose : Closes tail) (hfuel : ts.length < fuel) :
    expression fuel 0 (vs ++ tail) = .ok (e, tail) := by
  have hagree : Agreement tail (expression (ts.length + 1)) (expression fuel) :=
    agreement_expression hclose hfuel
  obtain ⟨rest, hrest, hcontinued⟩ :=
    hagree.agrees 0 ts (vs ++ tail) ⟨vs, rfl, hvs⟩ e [] (ofTokens_eq_ok_iff.1 hts)
  rw [hrest, continued_nil.1 hcontinued]

/-- What tokens are read as does not depend on where they stand. -/
theorem ofTokens_congr {vs : List Located} (hvs : vs.map (·.token) = ts.map (·.token)) {e : Expr} :
    ofTokens vs = .ok e ↔ ofTokens ts = .ok e := by
  have hread {ts vs : List Located} (hvs : vs.map (·.token) = ts.map (·.token))
      (hts : ofTokens ts = .ok e) : ofTokens vs = .ok e := by
    have hlength : vs.length = ts.length := by simpa using congrArg List.length hvs
    have hexpr : expression (vs.length + 1) 0 (vs ++ []) = .ok (e, []) :=
      expression_append hts hvs closes_nil (by omega)
    rw [List.append_nil] at hexpr
    exact ofTokens_eq_ok_iff.2 hexpr
  exact ⟨hread hvs.symm, hread hvs⟩

end Caseflow.Query
