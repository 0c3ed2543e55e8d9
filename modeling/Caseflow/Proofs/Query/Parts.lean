import Caseflow.Query.Expr

/-!
# Expressions and their parts

The parts of an expression are those that stand directly in it. What holds of an expression
whenever it holds of its parts holds of all expressions.
-/
namespace Caseflow.Query

variable {a b e d : Expr}

def Expr.parts : Expr → List Expr
  | .chain a b | .projection a b | .condition a b | .comparison _ a b | .and a b | .or a b => [a, b]
  | .objectValues a | .flatten a | .not a | .reference a => [a]
  | .list items => items
  | .hash pairs => pairs.map (·.2)
  | .call _ args => args
  | .identity | .field _ | .literal _ | .index _ | .slice _ => []

/-- A property of an expression and of all that stand in it. -/
inductive Everywhere (p : Expr → Prop) : Expr → Prop
  | intro {e : Expr} (here : p e) (parts : ∀ d ∈ e.parts, Everywhere p d) : Everywhere p e

namespace Everywhere

variable {p : Expr → Prop}

theorem here (h : Everywhere p e) : p e := by
  cases h
  assumption

theorem part (h : Everywhere p e) (hd : d ∈ e.parts) : Everywhere p d := by
  cases h with
  | intro _ parts => exact parts d hd

theorem leaf (h : p e) (hparts : e.parts = []) : Everywhere p e :=
  .intro h (by simp [hparts])

theorem one (h : p e) (hparts : e.parts = [a]) (ha : Everywhere p a) : Everywhere p e :=
  .intro h (by simpa [hparts] using ha)

theorem two (h : p e) (hparts : e.parts = [a, b]) (ha : Everywhere p a) (hb : Everywhere p b) :
    Everywhere p e :=
  .intro h (by simpa [hparts] using ⟨ha, hb⟩)

end Everywhere

theorem sizeOf_lt_of_mem_parts (h : d ∈ e.parts) : sizeOf d < sizeOf e := by
  cases e with
  | list items =>
    have hlt : sizeOf d < sizeOf items := List.sizeOf_lt_of_mem h
    simp only [Expr.list.sizeOf_spec]
    omega
  | hash pairs =>
    obtain ⟨p, hp, rfl⟩ := List.mem_map.1 h
    have hlt := List.sizeOf_lt_of_mem hp
    have hvalue : sizeOf p.2 < sizeOf p := by
      cases p
      simp only [Prod.mk.sizeOf_spec]
      omega
    simp only [Expr.hash.sizeOf_spec]
    omega
  | call name args =>
    have hlt : sizeOf d < sizeOf args := List.sizeOf_lt_of_mem h
    simp only [Expr.call.sizeOf_spec]
    omega
  | identity | field _ | literal _ | index _ | slice _ => cases h
  | _ =>
    simp only [Expr.parts, List.mem_cons, List.not_mem_nil, or_false] at h
    obtain rfl | rfl := h <;> simp <;> omega

@[elab_as_elim]
theorem Expr.parts_induction {motive : Expr → Prop}
    (step : ∀ e : Expr, (∀ d ∈ e.parts, motive d) → motive e) (e : Expr) : motive e :=
  step e fun d _ => parts_induction step d
termination_by sizeOf e
decreasing_by exact sizeOf_lt_of_mem_parts ‹_›

end Caseflow.Query
