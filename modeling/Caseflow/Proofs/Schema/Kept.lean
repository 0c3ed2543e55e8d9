import Mathlib.Data.List.Dedup
import Caseflow.Proofs.Json.Text
import Caseflow.Schema.Validator

/-!
# What a validator keeps does not show

A validator keeps checkers by the text of their schemas. Texts tell schemas apart, so the checker it
finds is always the one that the schema at hand compiles to, whatever the compiler is, and a
validator with any history gives the messages of a fresh one. The number of checkers kept is that of
the different schemas among the calls so far that compile.
-/
namespace Caseflow.Schema

variable {compiler : Compiler} {schema value : Json} {schemas : List Json} {check : Checker}

theorem text_injective : Function.Injective Json.text := fun _ _ h => Json.eq_of_canonicalText h

def compiles (compiler : Compiler) (schema : Json) : Bool := (compiler schema).isOk

theorem compiles_iff : compiles compiler schema = true ↔ ∃ check, compiler schema = .ok check := by
  unfold compiles
  cases compiler schema with
  | ok check => simp [Except.isOk, Except.toBool]
  | error text => simp [Except.isOk, Except.toBool]

/-- The different schemas of a list that compile. -/
def compilable (compiler : Compiler) (schemas : List Json) : List Json :=
  (schemas.filter (compiles compiler)).dedup

theorem mem_compilable :
    schema ∈ compilable compiler schemas ↔
      schema ∈ schemas ∧ ∃ check, compiler schema = .ok check := by
  rw [compilable, List.mem_dedup, List.mem_filter, compiles_iff]

namespace Validator

variable {v : Validator}

theorem validate_eq (v : Validator) (schema value : Json) :
    v.validate compiler schema value =
      (messages (v.compile compiler schema).1 value, (v.compile compiler schema).2) := rfl

theorem run_cons (v : Validator) (schema value : Json) (calls : List (Json × Json)) :
    v.run compiler ((schema, value) :: calls) =
      (messages (v.compile compiler schema).1 value, (v.compile compiler schema).2.cached) ::
        (v.compile compiler schema).2.run compiler calls := rfl

/-- What a validator keeps after calls with these schemas: the checker of each that compiles, under
its text. -/
def Keeps (compiler : Compiler) (v : Validator) (schemas : List Json) : Prop :=
  ∀ text check, v.compiled.get? text = some check ↔
    ∃ schema ∈ schemas, schema.text = text ∧ compiler schema = .ok check

theorem keeps_fresh : fresh.Keeps compiler [] := by
  intro text check
  simp [fresh]

theorem Keeps.compile_eq (h : v.Keeps compiler schemas)
    (hkept : v.compiled.get? schema.text = some check) :
    compiler schema = .ok check := by
  obtain ⟨other, -, htext, hcompile⟩ := (h _ _).1 hkept
  rwa [text_injective htext] at hcompile

theorem Keeps.outcome (h : v.Keeps compiler schemas) (schema : Json) :
    (v.compile compiler schema).1 = compiler schema := by
  unfold compile
  split
  · rename_i check hkept
    exact (h.compile_eq hkept).symm
  · split
    · rename_i check hcompile
      exact hcompile.symm
    · rename_i text hcompile
      exact hcompile.symm

/-- A call keeps the checker of its schema, if there is one, and all that was kept before. -/
theorem Keeps.step (h : v.Keeps compiler schemas) (schema : Json) :
    (v.compile compiler schema).2.Keeps compiler (schemas ++ [schema]) := by
  intro text check
  have hlater : (∃ s ∈ schemas ++ [schema], s.text = text ∧ compiler s = .ok check) ↔
      v.compiled.get? text = some check ∨
        schema.text = text ∧ compiler schema = .ok check := by
    rw [h text check]
    simp only [List.mem_append, List.mem_singleton, or_and_right, exists_or, exists_eq_left]
  rw [hlater]
  unfold compile
  split
  · rename_i known hkept
    constructor
    · exact .inl
    · rintro (hbefore | ⟨rfl, hcompile⟩)
      · exact hbefore
      · rw [h.compile_eq hkept] at hcompile
        rw [hkept, Except.ok.inj hcompile]
  · rename_i hnone
    split
    · rename_i new hcompile
      rw [Dict.get?_insert, hcompile, Except.ok.injEq]
      by_cases htext : schema.text = text
      · rw [htext] at hnone
        simp [htext, hnone]
      · simp [htext]
    · rename_i fault hcompile
      simp [hcompile]

/-- The number of checkers kept is that of the different schemas that compile: the texts on both
sides are the same, and each is there once. -/
theorem Keeps.cached_eq (h : v.Keeps compiler schemas) :
    v.cached = (compilable compiler schemas).length := by
  have hkeys : v.compiled.keys.Nodup := by
    refine List.pairwise_map.2 (List.Pairwise.imp ?_ v.compiled.ascend)
    intro a b hlt heq
    exact Std.lt_irrefl (heq ▸ hlt)
  have htexts : ((compilable compiler schemas).map Json.text).Nodup :=
    (List.nodup_dedup _).map text_injective
  have hmem (text : String) :
      text ∈ v.compiled.keys ↔ text ∈ (compilable compiler schemas).map Json.text := by
    calc text ∈ v.compiled.keys
        ↔ ∃ check, v.compiled.get? text = some check := by
          simp [Dict.keys, Dict.mem_entries_iff]
      _ ↔ ∃ check, ∃ schema ∈ schemas, schema.text = text ∧ compiler schema = .ok check :=
          exists_congr (h text)
      _ ↔ text ∈ (compilable compiler schemas).map Json.text := by
          simp only [List.mem_map, mem_compilable]
          grind
  have hperm := (List.perm_ext_iff_of_nodup hkeys htexts).2 hmem
  calc v.cached = v.compiled.keys.length := (List.length_map _).symm
    _ = ((compilable compiler schemas).map Json.text).length := hperm.length_eq
    _ = (compilable compiler schemas).length := List.length_map _

/-- What a call gives after calls with these schemas: the messages of a fresh validator, and the
number of different schemas that compile. -/
def expected (compiler : Compiler) (schemas : List Json) (call : Json × Json) :
    List String × Nat :=
  ((fresh.validate compiler call.1 call.2).1, (compilable compiler (schemas ++ [call.1])).length)

theorem Keeps.getElem?_run (h : v.Keeps compiler schemas) (calls : List (Json × Json)) (i : Nat) :
    (v.run compiler calls)[i]? =
      calls[i]?.map (expected compiler (schemas ++ (calls.take i).map Prod.fst)) := by
  induction calls generalizing v schemas i with
  | nil => rfl
  | cons call calls ih =>
    obtain ⟨schema, value⟩ := call
    have hstep := h.step schema
    rw [run_cons]
    cases i with
    | zero => simp [expected, validate_eq, h.outcome, keeps_fresh.outcome, hstep.cached_eq]
    | succ i => simp [ih hstep]

/-- Whatever calls came before, a call gives the messages that a fresh validator gives, and after it
as many checkers are kept as there are different schemas among the calls so far that compile.
Schemas are the same if their texts are: `1` and `1.0` are different, and so are the two zeros,
which messages show apart as well. -/
theorem run_history_independent (compiler : Compiler) (calls : List (Json × Json)) (i : Nat) :
    (fresh.run compiler calls)[i]? = calls[i]?.map fun call =>
      ((fresh.validate compiler call.1 call.2).1,
        (compilable compiler ((calls.take (i + 1)).map Prod.fst)).length) := by
  rw [keeps_fresh.getElem?_run]
  cases hcall : calls[i]? with
  | none => rfl
  | some call => simp [expected, List.take_add_one, hcall]

/-- A schema that does not compile is answered every time and never kept. -/
example :
    let compiler : Compiler := fun schema =>
      if schema = .null then .error "no schema" else .ok fun value =>
        if value = schema then [] else [⟨"", "another value"⟩]
    fresh.run compiler [(.ofNat 1, .ofNat 1), (.null, .null), (.ofNat 1, .ofNat 2),
      (.ofNat 2, .ofNat 2)] =
      [([], 1), (["invalid schema: no schema"], 1), (["another value"], 1), ([], 2)] := by
  decide +kernel

end Validator
end Caseflow.Schema
