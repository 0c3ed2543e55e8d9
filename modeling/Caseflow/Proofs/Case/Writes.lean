import Caseflow.Case.Update
import Caseflow.Proofs.Outcome

/-!
# What updates write

Each update whose guard holds makes one write: it leaves a value at the path of its target. A write
is read back as long as no later one is at a path above or below its own, and what is read at paths
that are apart from all writes stays as it was.
-/
namespace Caseflow.Case

open Scenario

variable {regex : Regex.Engine} {ctx final v : Json} {path other more : List String} {name : String}

/-- The value at a path of field names, if there is one. -/
def valueAt? : List String → Json → Option Json
  | [], v => some v
  | name :: path, v => (v.field? name).bind (valueAt? path)

/-- Neither of two paths leads through the other. -/
def Apart (path other : List String) : Prop := ¬ path <+: other ∧ ¬ other <+: path

theorem valueAt?_append (path more : List String) (v : Json) :
    valueAt? (path ++ more) v = (valueAt? path v).bind (valueAt? more) := by
  induction path generalizing v with
  | nil => rfl
  | cons name path ih =>
    rw [List.cons_append, valueAt?, valueAt?, Option.bind_assoc]
    exact Option.bind_congr fun w _ => ih w

theorem valueAt?_null (h : path ≠ []) : valueAt? path .null = none := by
  cases path with
  | nil => exact absurd rfl h
  | cons name path => rfl

theorem field_of_field? {w : Json} (h : v.field? name = some w) : v.field name = w := by
  rw [Json.field, h, Option.getD_some]

/-- Below a name, nothing is read where there is no such field. -/
theorem valueAt?_cons (h : path ≠ []) (v : Json) :
    valueAt? (name :: path) v = valueAt? path (v.field name) := by
  rw [valueAt?]
  cases hfield : v.field? name with
  | none => rw [Json.field, hfield, Option.getD_none, valueAt?_null h, Option.bind_none]
  | some w => rw [field_of_field? hfield, Option.bind_some]

theorem isObject_of_valueAt? {w : Json} (h : valueAt? (name :: path) v = some w) :
    ∃ fields, v = .obj fields := by
  cases v with
  | obj fields => exact ⟨fields, rfl⟩
  | _ => cases h

theorem get?_fieldsOf (name : String) (v : Json) :
    Assoc.get? name (fieldsOf v) = v.field? name := by
  cases v <;> rfl

theorem field?_modifyAt (change : Json → Json) (name other : String) (path : List String)
    (v : Json) : (modifyAt change (name :: path) v).field? other =
      if name = other then some (modifyAt change path (v.field name)) else v.field? other := by
  rw [modifyAt, Json.field?, Assoc.get?_insert, get?_fieldsOf]

theorem valueAt?_modifyAt (change : Json → Json) (path : List String) (v : Json) :
    valueAt? path (modifyAt change path v) = some (change (valueAt path v)) := by
  induction path generalizing v with
  | nil => rfl
  | cons name path ih => rw [valueAt?, field?_modifyAt, if_pos rfl, Option.bind_some, ih, valueAt]

theorem Apart.ne_nil (h : Apart path other) : path ≠ [] := by
  rintro rfl
  exact h.1 List.nil_prefix

theorem apart_cons : Apart (name :: path) (name :: other) ↔ Apart path other := by
  simp [Apart, List.cons_prefix_cons]

theorem valueAt?_modifyAt_of_apart {change : Json → Json} (h : Apart path other) (v : Json) :
    valueAt? path (modifyAt change other v) = valueAt? path v := by
  induction other generalizing path v with
  | nil => exact absurd List.nil_prefix h.2
  | cons name other ih =>
    cases path with
    | nil => exact absurd List.nil_prefix h.1
    | cons first path =>
      by_cases hname : name = first
      · subst hname
        have hrest := apart_cons.1 h
        rw [valueAt?, field?_modifyAt, if_pos rfl, Option.bind_some, ih hrest,
          valueAt?_cons hrest.ne_nil]
      · rw [valueAt?, field?_modifyAt, if_neg hname, valueAt?]

/-- What an update leaves, and where. -/
structure Write where
  path : List String
  value : Json
deriving DecidableEq

def pathOf (u : Update) : List String := Text.split '.' u.target

/-- The writes that updates make one after another, up to the first update that fails. -/
def writesOf (regex : Regex.Engine) (predicting : Bool) : Json → List Update → List Write
  | _, [] => []
  | ctx, u :: rest =>
    match holds regex ctx u.guard, applyUpdate regex predicting ctx u with
    | .ok true, .ok next =>
      ⟨pathOf u, valueAt (pathOf u) next⟩ :: writesOf regex predicting next rest
    | .ok false, .ok next => writesOf regex predicting next rest
    | _, _ => []

theorem pathOf_ne_nil (u : Update) : pathOf u ≠ [] := by
  intro h
  exact Text.splitChars_ne_nil _ _ (List.map_eq_nil_iff.1 h)

/-- Updates that go from one context to another, with the writes they make. -/
inductive Applied (regex : Regex.Engine) (predicting : Bool) :
    Json → List Update → List Write → Json → Prop
  | done {ctx : Json} : Applied regex predicting ctx [] [] ctx
  | skipped {ctx final : Json} {u : Update} {rest : List Update} {writes : List Write}
      (hallowed : isAllowedTarget u.target = true) (hguard : holds regex ctx u.guard = .ok false)
      (hrest : Applied regex predicting ctx rest writes final) :
      Applied regex predicting ctx (u :: rest) writes final
  | written {ctx final value : Json} {u : Update} {rest : List Update} {writes : List Write}
      (hallowed : isAllowedTarget u.target = true) (hguard : holds regex ctx u.guard = .ok true)
      (hvalue : evaluate regex ctx (sourceOf predicting u) = .ok value)
      (hrest : Applied regex predicting (modifyAt (combine u.mode · value) (pathOf u) ctx) rest
        writes final) :
      Applied regex predicting ctx (u :: rest)
        (⟨pathOf u, combine u.mode (valueAt (pathOf u) ctx) value⟩ :: writes) final

variable {predicting : Bool} {updates : List Update} {writes earlier later : List Write}

theorem applyUpdate_eq_ok_iff {u : Update} {next : Json} :
    applyUpdate regex predicting ctx u = .ok next ↔ isAllowedTarget u.target = true ∧
      ((holds regex ctx u.guard = .ok false ∧ next = ctx) ∨
        holds regex ctx u.guard = .ok true ∧
          ∃ value, evaluate regex ctx (sourceOf predicting u) = .ok value ∧
            next = modifyAt (combine u.mode · value) (pathOf u) ctx) := by
  unfold applyUpdate
  by_cases hallowed : isAllowedTarget u.target = true
  · rw [if_pos hallowed, bind_eq_ok_iff]
    refine Iff.trans ?_ (and_iff_right hallowed).symm
    constructor
    · rintro ⟨applies, hguard, h⟩
      cases applies with
      | false =>
        rw [if_neg (by decide), pure_eq_ok_iff] at h
        exact .inl ⟨hguard, h.symm⟩
      | true =>
        rw [if_pos rfl, bind_eq_ok_iff] at h
        obtain ⟨value, hvalue, h⟩ := h
        exact .inr ⟨hguard, value, hvalue, (pure_eq_ok_iff.1 h).symm⟩
    · rintro (⟨hguard, rfl⟩ | ⟨hguard, value, hvalue, rfl⟩)
      · exact ⟨false, hguard, rfl⟩
      · refine ⟨true, hguard, ?_⟩
        rw [if_pos rfl, bind_eq_ok_iff]
        exact ⟨value, hvalue, rfl⟩
  · rw [if_neg hallowed]
    exact iff_of_false (fun h => nomatch h) fun h => hallowed h.1

theorem applied_writesOf (h : applyUpdates regex predicting ctx updates = .ok final) :
    Applied regex predicting ctx updates (writesOf regex predicting ctx updates) final := by
  induction updates generalizing ctx with
  | nil =>
    cases h
    exact .done
  | cons u rest ih =>
    obtain ⟨next, hnext, hrest⟩ := bind_eq_ok_iff.1 h
    obtain ⟨hallowed, ⟨hguard, heq⟩ | ⟨hguard, value, hvalue, heq⟩⟩ :=
      applyUpdate_eq_ok_iff.1 hnext
    · rw [writesOf, hguard, hnext]
      subst heq
      exact .skipped hallowed hguard (ih hrest)
    · rw [writesOf, hguard, hnext]
      subst heq
      simp only [valueAt_modifyAt]
      exact .written hallowed hguard hvalue (ih hrest)

namespace Applied

/-- A write is made where an update may write. -/
theorem exists_update (h : Applied regex predicting ctx updates writes final) :
    ∀ w ∈ writes, ∃ u ∈ updates, isAllowedTarget u.target = true ∧ w.path = pathOf u := by
  induction h with
  | done => exact List.forall_mem_nil _
  | skipped _ _ _ ih =>
    intro w hw
    obtain ⟨u, hu, hwrite⟩ := ih w hw
    exact ⟨u, List.mem_cons_of_mem _ hu, hwrite⟩
  | @written ctx final value u rest writes hallowed _ _ _ ih =>
    refine List.forall_mem_cons.2 ⟨⟨u, List.mem_cons_self, hallowed, rfl⟩, ?_⟩
    intro w hw
    obtain ⟨v, hv, hwrite⟩ := ih w hw
    exact ⟨v, List.mem_cons_of_mem _ hv, hwrite⟩

/-- Without a write the context stays as it is. -/
theorem eq_of_nil (h : Applied regex predicting ctx updates [] final) : final = ctx := by
  generalize hnone : ([] : List Write) = writes at h
  induction h with
  | done => rfl
  | skipped _ _ _ ih => exact ih hnone
  | written => cases hnone

/-- What is read apart from all writes stays as it was. -/
theorem frame (h : Applied regex predicting ctx updates writes final)
    (hapart : ∀ w ∈ writes, Apart path w.path) : valueAt? path final = valueAt? path ctx := by
  induction h with
  | done => rfl
  | skipped _ _ _ ih => exact ih hapart
  | written _ _ _ _ ih =>
    obtain ⟨hfirst, hrest⟩ := List.forall_mem_cons.1 hapart
    rw [ih hrest, valueAt?_modifyAt_of_apart hfirst]

theorem isSome_field? (h : Applied regex predicting ctx updates writes final)
    (hfield : (ctx.field? name).isSome = true) : (final.field? name).isSome = true := by
  induction h with
  | done => exact hfield
  | skipped _ _ _ ih => exact ih hfield
  | @written ctx final value u rest writes _ _ _ _ ih =>
    apply ih
    cases hpath : pathOf u with
    | nil => exact absurd hpath (pathOf_ne_nil u)
    | cons first path =>
      rw [field?_modifyAt]
      split
      · rfl
      · exact hfield

/-- Right after a write its value is read, and the writes that follow it go on from there. -/
theorem split {w : Write} (h : Applied regex predicting ctx updates (earlier ++ w :: later) final) :
    ∃ mid rest, valueAt? w.path mid = some w.value ∧
      Applied regex predicting mid rest later final := by
  generalize hwrites : earlier ++ w :: later = writes at h
  induction h generalizing earlier with
  | done => simp at hwrites
  | skipped _ _ _ ih => exact ih hwrites
  | @written ctx final value u rest writes _ _ _ hrest ih =>
    cases earlier with
    | nil =>
      cases hwrites
      exact ⟨_, rest, valueAt?_modifyAt _ _ _, hrest⟩
    | cons first earlier => exact ih (List.cons.inj hwrites).2

/-- What is in the value of a write is read at the end as long as no later write is above or below
it. -/
theorem survives {w : Write}
    (h : Applied regex predicting ctx updates (earlier ++ w :: later) final)
    (hlater : ∀ u ∈ later, Apart (w.path ++ more) u.path) :
    valueAt? (w.path ++ more) final = valueAt? more w.value := by
  obtain ⟨mid, rest, hvalue, hrest⟩ := h.split
  rw [hrest.frame hlater, valueAt?_append, hvalue, Option.bind_some]

end Applied
end Caseflow.Case
