import Caseflow.Proofs.Query.Layout
import Caseflow.Proofs.Query.Parts
import Caseflow.Proofs.Query.Slice

/-!
# The slices of a query

The numbers of a query have 64 bits, and a step of zero is refused. So the bounds of every slice in
an expression that is read are ones a slice can be made with. A reader is said to yield what has a
property if it does so on all tokens whose numbers have 64 bits, and every production is shown to
yield expressions of such slices if the reader of its parts does.
-/
namespace Caseflow.Query

open Reader Scan

variable {α β : Type} {t : Token} {cs : List Char} {n : Nat}

/-- Tokens whose numbers have 64 bits. -/
def Signed (ts : List Located) : Prop := ∀ t ∈ ts, ∀ i, t.token = .number i → IsSigned i

theorem of_found {p : Prop} [Decidable p] {u : Token} {m k : Nat}
    (h : (if p then Scan.found u m else .unexpected k) = .found t n) : p ∧ u = t := by
  split at h
  · rename_i hp
    exact ⟨hp, (found.inj h).1⟩
  · cases h

theorem isSigned_of_scanInteger {negative : Bool} {i : Int}
    (h : scanInteger negative cs = .found (.number i) n) : IsSigned i := by
  obtain ⟨hfits, hvalue⟩ := of_found h
  cases hvalue
  exact hfits

theorem scanQuoted_ne_number {quote : Char} {i : Int} :
    scanQuoted quote cs ≠ .found (.number i) n := by
  intro h
  unfold scanQuoted at h
  split at h
  · split at h
    · rename_i u hquoted
      cases h
      unfold quotedToken? at hquoted
      split at hquoted
      · simp at hquoted
      · split at hquoted <;> simp at hquoted
    · cases h
  · cases h

theorem isSigned_of_scan {i : Int} (h : scan cs = .found (.number i) n) : IsSigned i := by
  unfold scan at h
  split at h
  case h_26 =>
    split at h
    · exact isSigned_of_scanInteger h
    · cases h
  case h_27 | h_28 | h_29 => exact absurd h scanQuoted_ne_number
  case h_30 =>
    split at h
    · exact isSigned_of_scanInteger h
    · split at h <;> cases h
  all_goals cases h

theorem signed_of_tokens {query : String} {located : List Located}
    (h : tokens query = .ok located) : Signed located := by
  obtain ⟨ls, hlaid, rfl⟩ := laid_of_tokensFrom h (Nat.zero_le _)
  intro t ht i hi
  obtain ⟨l, hl, rfl⟩ := List.mem_map.1 ht
  obtain ⟨before, after, -, -, hscan⟩ := hlaid.stands hl
  rw [hi] at hscan
  exact isSigned_of_scan hscan

/-- What a reader makes of tokens with numbers of 64 bits has a property, and it leaves such
tokens. -/
def Yields (p : α → Prop) (r : Reader α) : Prop :=
  ∀ ts a rest, Signed ts → r ts = .ok (a, rest) → p a ∧ Signed rest

section Yields

variable {p : α → Prop} {q : β → Prop}

theorem yields_pure {a : α} (h : p a) : Yields p (pure a) := by
  rintro ts b rest hts ⟨⟩
  exact ⟨h, hts⟩

theorem yields_fail (message : String) : Yields p (fail message) := nofun

theorem yields_failBefore (token : Located) (message : String) :
    Yields p (failBefore token message) := nofun

theorem yields_depleted : Yields p depleted := nofun

theorem Yields.bind {r : Reader α} {f : α → Reader β} (h : Yields p r)
    (hf : ∀ a, p a → Yields q (f a)) : Yields q (r >>= f) := by
  intro ts b rest hts hb
  rw [run_bind] at hb
  obtain ⟨⟨a, mid⟩, ha, hb⟩ := bind_eq_ok_iff.1 hb
  obtain ⟨hpa, hmid⟩ := h ts a mid hts ha
  exact hf a hpa mid b rest hmid hb

theorem Yields.map {r : Reader α} {f : α → β} (h : Yields p r) (hf : ∀ a, p a → q (f a)) :
    Yields q (r >>= fun a => pure (f a)) :=
  h.bind fun a ha => yields_pure (hf a ha)

abbrev Keeps (r : Reader α) : Prop := Yields (fun _ => True) r

theorem keeps_next : Keeps next := by
  intro ts t rest hts h
  cases ts with
  | nil => cases h
  | cons u us =>
    cases h
    exact ⟨trivial, fun t ht => hts t (List.mem_cons_of_mem _ ht)⟩

theorem keeps_peek : Keeps peek := by
  rintro ts o rest hts ⟨⟩
  exact ⟨trivial, hts⟩

theorem keeps_peekTwo : Keeps peekTwo := by
  rintro ts o rest hts ⟨⟩
  exact ⟨trivial, hts⟩

theorem keeps_peekPower : Keeps peekPower := by
  rintro ts o rest hts ⟨⟩
  exact ⟨trivial, hts⟩

theorem keeps_drop (n : Nat) : Keeps (drop n) := by
  rintro ts o rest hts ⟨⟩
  exact ⟨trivial, fun t ht => hts t (List.mem_of_mem_drop ht)⟩

theorem keeps_expect (token : Token) : Keeps (expect token) := by
  refine keeps_next.bind fun t _ => ?_
  split
  · exact yields_pure trivial
  · exact yields_fail _

end Yields

/-- The numbers of an index or a slice have 64 bits. -/
def SignedParts (parts : List (Option Int)) : Prop := ∀ part ∈ parts, ∀ i ∈ part, IsSigned i

theorem yields_indexParts {parts : List (Option Int)} (h : SignedParts parts) :
    Yields SignedParts (indexParts parts) := by
  intro ts
  induction ts generalizing parts with
  | nil => nofun
  | cons t ts ih =>
    intro found rest hts hfound
    obtain ⟨ht, hrest⟩ := List.forall_mem_cons.1 hts
    unfold indexParts at hfound
    split at hfound
    · cases hfound
    · rename_i n _ before _ hnumber
      obtain ⟨-, hbefore⟩ := List.forall_mem_cons.1 h
      have hn : ∀ i ∈ some n, IsSigned i := by
        rintro i ⟨⟩
        exact ht n hnumber
      exact ih (List.forall_mem_cons.2 ⟨hn, hbefore⟩) found rest hrest hfound
    · split at hfound
      · have hnone : ∀ i ∈ (none : Option Int), IsSigned i := nofun
        exact ih (List.forall_mem_cons.2 ⟨hnone, h⟩) found rest hrest hfound
      · cases hfound
    · cases hfound
      exact ⟨fun part hpart => h part (List.mem_reverse.1 hpart), hrest⟩
    · cases hfound

def Expr.IsBounded : Expr → Prop
  | .slice b => b.Valid
  | _ => True

/-- All slices of an expression have bounds that they can be made with. -/
abbrev Bounded : Expr → Prop := Everywhere Expr.IsBounded

section Productions

variable {sub : Nat → Reader Expr} (hsub : ∀ power, Yields Bounded (sub power)) {fuel : Nat}
  {left : Expr}

include hsub

theorem yields_itemsUntil (close : Token) (fault : Token → String) {acc : List Expr}
    (hacc : ∀ e ∈ acc, Bounded e) :
    Yields (fun items => ∀ e ∈ items, Bounded e) (itemsUntil sub close fault fuel acc) := by
  induction fuel generalizing acc with
  | zero => exact yields_depleted
  | succ fuel ih =>
    refine (hsub 0).bind fun item hitem => keeps_next.bind fun t _ => ?_
    have hmore : ∀ e ∈ item :: acc, Bounded e := List.forall_mem_cons.2 ⟨hitem, hacc⟩
    split
    · exact ih hmore
    · split
      · exact yields_pure fun e he => hmore e (List.mem_reverse.1 he)
      · exact yields_fail _

theorem yields_listItems : Yields Bounded (listItems sub fuel) :=
  (yields_itemsUntil hsub _ _ (List.forall_mem_nil _)).map fun _ hitems => .intro trivial hitems

theorem yields_hashPairs {acc : List (String × Expr)} (hacc : ∀ p ∈ acc, Bounded p.2) :
    Yields Bounded (hashPairs sub fuel acc) := by
  induction fuel generalizing acc with
  | zero => exact yields_depleted
  | succ fuel ih =>
    refine keeps_next.bind fun t _ => ?_
    split
    case h_1 key _ | h_2 key _ =>
      refine (keeps_expect _).bind fun _ _ => (hsub 0).bind fun value hvalue =>
        keeps_next.bind fun t _ => ?_
      have hmore : ∀ p ∈ (key, value) :: acc, Bounded p.2 :=
        List.forall_mem_cons.2 ⟨hvalue, hacc⟩
      split
      · exact ih hmore
      · refine yields_pure (.intro trivial fun d hd => ?_)
        obtain ⟨p, hp, rfl⟩ := List.mem_map.1 hd
        exact hmore p (List.mem_reverse.1 hp)
      · exact yields_fail _
    case h_3 => exact yields_fail _

theorem yields_afterDot (power : Nat) : Yields Bounded (afterDot sub fuel power) := by
  refine keeps_peek.bind fun t _ => ?_
  split
  case h_6 => exact (keeps_drop 1).bind fun _ _ => yields_listItems hsub
  case h_7 => exact yields_fail _
  all_goals exact hsub power

theorem yields_projected (power : Nat) : Yields Bounded (projected sub fuel power) := by
  have hidentity : Yields Bounded (pure Expr.identity : Reader Expr) :=
    yields_pure (.leaf trivial rfl)
  refine keeps_peek.bind fun t _ => ?_
  split
  · exact hidentity
  · split
    · exact hidentity
    · split
      · exact (keeps_drop 1).bind fun _ _ => yields_afterDot hsub power
      case h_5 => exact yields_fail _
      all_goals exact hsub power

theorem yields_valuesOf (hleft : Bounded left) : Yields Bounded (valuesOf sub fuel left) :=
  (yields_projected hsub _).map fun _ hitem => .two trivial rfl (.one trivial rfl hleft) hitem

theorem yields_eachOf (hleft : Bounded left) : Yields Bounded (eachOf sub fuel left) :=
  (yields_projected hsub _).map fun _ hitem => .two trivial rfl hleft hitem

theorem yields_flattened (hleft : Bounded left) : Yields Bounded (flattened sub fuel left) :=
  (yields_projected hsub _).map fun _ hitem => .two trivial rfl (.one trivial rfl hleft) hitem

theorem yields_filtered (hleft : Bounded left) : Yields Bounded (filtered sub fuel left) :=
  (hsub 0).bind fun _ htest => (keeps_expect _).bind fun _ _ =>
    (yields_projected hsub _).map fun _ hitem =>
      .two trivial rfl hleft (.two trivial rfl htest hitem)

theorem yields_indexed (hleft : Bounded left) : Yields Bounded (indexed sub fuel left) := by
  have hnone : SignedParts [none] := List.forall_mem_singleton.2 nofun
  refine (yields_indexParts hnone).bind fun parts hparts => ?_
  split
  case h_1 => exact yields_pure (.two trivial rfl hleft (.leaf trivial rfl))
  case h_2 _ start stop rest =>
    dsimp only
    split
    · exact yields_fail _
    · rename_i hstep
      obtain ⟨hstart, hrest⟩ := List.forall_mem_cons.1 hparts
      obtain ⟨hstop, hrest⟩ := List.forall_mem_cons.1 hrest
      have hvalid : Bounds.Valid ⟨start, stop, rest.head?.join⟩ := by
        refine ⟨hstart, hstop, fun i hi => ⟨?_, ?_⟩⟩
        · have hhead : rest.head? = some (some i) := Option.join_eq_some_iff.1 hi
          exact hrest _ (List.mem_of_head? hhead) i rfl
        · rintro rfl
          exact hstep hi
      exact yields_eachOf hsub (.two trivial rfl hleft (.leaf hvalid rfl))
  case h_3 => exact yields_fail _

theorem yields_callArguments : Yields Bounded (callArguments sub fuel left) := by
  unfold callArguments
  split
  · refine keeps_peek.bind fun t _ => ?_
    split
    · exact (keeps_drop 1).bind fun _ _ => yields_pure (.leaf trivial rfl)
    · exact (yields_itemsUntil hsub _ _ (List.forall_mem_nil _)).map fun _ hitems =>
        .intro trivial hitems
  · exact yields_fail _

theorem yields_operand : Yields Bounded (operand sub fuel) := by
  have hidentity : Bounded .identity := .leaf trivial rfl
  refine keeps_next.bind fun t _ => ?_
  split
  · exact yields_pure hidentity
  · exact yields_pure (.leaf trivial rfl)
  · refine keeps_peek.bind fun t _ => ?_
    split
    · exact yields_fail _
    · exact yields_pure (.leaf trivial rfl)
  · exact yields_pure (.leaf trivial rfl)
  · exact yields_pure (.leaf trivial rfl)
  · exact yields_valuesOf hsub hidentity
  · exact yields_flattened hsub hidentity
  · exact yields_filtered hsub hidentity
  · exact yields_hashPairs hsub nofun
  · refine keeps_peekTwo.bind fun ahead _ => ?_
    split
    · exact yields_indexed hsub hidentity
    · exact yields_indexed hsub hidentity
    · exact (keeps_drop 2).bind fun _ _ => yields_eachOf hsub hidentity
    · exact yields_listItems hsub
  · exact (hsub 0).map fun _ he => .one trivial rfl he
  · exact (hsub _).map fun _ he => .one trivial rfl he
  · exact (hsub 0).bind fun _ he => (keeps_expect _).bind fun _ _ => yields_pure he
  · exact yields_failBefore _ _

theorem yields_extension (hleft : Bounded left) : Yields Bounded (extension sub fuel left) := by
  refine keeps_next.bind fun t _ => ?_
  split
  · exact (yields_afterDot hsub _).map fun _ he => .two trivial rfl hleft he
  · refine keeps_peekTwo.bind fun ahead _ => ?_
    split
    · exact yields_indexed hsub hleft
    · exact yields_indexed hsub hleft
    · exact (keeps_drop 2).bind fun _ _ => yields_eachOf hsub hleft
    · exact yields_fail _
  · exact yields_flattened hsub hleft
  · exact yields_filtered hsub hleft
  · exact (hsub _).map fun _ he => .two trivial rfl hleft he
  · exact (hsub _).map fun _ he => .two trivial rfl hleft he
  · exact (hsub _).map fun _ he => .two trivial rfl hleft he
  · exact yields_callArguments hsub
  · exact (hsub _).map fun _ he => .two trivial rfl hleft he
  · exact yields_failBefore _ _

theorem yields_extend (power : Nat) (hleft : Bounded left) :
    Yields Bounded (extend sub power fuel left) := by
  induction fuel generalizing left with
  | zero => exact yields_depleted
  | succ fuel ih =>
    refine keeps_peekPower.bind fun ahead _ => ?_
    split
    · exact (yields_extension hsub hleft).bind fun longer hlonger => ih hlonger
    · exact yields_pure hleft

end Productions

theorem yields_expression (fuel power : Nat) : Yields Bounded (expression fuel power) := by
  induction fuel generalizing power with
  | zero => exact yields_depleted
  | succ fuel ih => exact (yields_operand ih).bind fun left hleft => yields_extend ih power hleft

/-- A query is read as an expression whose slices can be made. -/
theorem bounded_of_parse {query : String} {e : Expr} (h : parse query = .ok e) : Bounded e := by
  obtain ⟨located, htokens, hread⟩ := parse_eq_ok_iff.1 h
  exact (yields_expression _ _ _ _ _ (signed_of_tokens htokens) (ofTokens_eq_ok_iff.1 hread)).1

end Caseflow.Query
