import Mathlib.Order.Bounds.Basic
import Caseflow.Schema.Scope

/-!
# Loading the documents that references reach

A scope is loaded with a stack of pending addresses, which may hold an address more than once and
documents that name each other. The loop ends, whatever the documents are: every address taken from
the stack was put there by the root or by a document that is asked for once. What it has asked for
then is the least set of addresses that the root and the documents in it name, each asked for once
and kept with the document that was served, or with the empty schema.
-/
namespace Caseflow.Schema

variable {root document v : Json} {uri other reference : String} {documents resources : Dict Json}
variable {pending asked : List String}

/-- Somewhere in a document stands an object with this reference. -/
inductive Mentions (reference : String) : Json → Prop
  | here {fields : Fields} (h : Assoc.get? "$ref" fields = some (.str reference)) :
      Mentions reference (.obj fields)
  | field {fields : Fields} {p : String × Json} (hp : p ∈ fields) (h : Mentions reference p.2) :
      Mentions reference (.obj fields)
  | item {items : List Json} {v : Json} (hv : v ∈ items) (h : Mentions reference v) :
      Mentions reference (.arr items)

/-- The part of a reference before the first `#`. -/
def documentPart (reference : String) : String :=
  String.ofList (reference.toList.takeWhile (· != '#'))

/-- A document names another one: it has a reference with that part before the `#`. -/
def Names (document : Json) (uri : String) : Prop :=
  uri ≠ "" ∧ ∃ reference, Mentions reference document ∧ documentPart reference = uri

theorem breakAt_hash (cs : List Char) :
    Text.breakAt ['#'] cs = none ∧ cs.takeWhile (· != '#') = cs ∨
      ∃ after, Text.breakAt ['#'] cs = some (cs.takeWhile (· != '#'), after) := by
  induction cs with
  | nil => exact .inl ⟨rfl, rfl⟩
  | cons c cs ih =>
    by_cases hc : c = '#'
    · subst hc
      exact .inr ⟨cs, rfl⟩
    · have hmark : ['#'].isPrefixOf (c :: cs) = false := by simp [List.isPrefixOf, Ne.symm hc]
      have hpart : (c :: cs).takeWhile (· != '#') = c :: cs.takeWhile (· != '#') :=
        List.takeWhile_cons_of_pos (by simp [hc])
      rw [Text.breakAt, hmark, hpart]
      obtain ⟨hnone, hwhole⟩ | ⟨after, hsome⟩ := ih
      · left
        rw [hnone, hwhole]
        exact ⟨rfl, rfl⟩
      · right
        rw [hsome]
        exact ⟨after, rfl⟩

theorem splitReference_fst (reference : String) :
    (splitReference reference).1 = documentPart reference := by
  unfold splitReference documentPart
  obtain ⟨hnone, hwhole⟩ | ⟨after, hsome⟩ := breakAt_hash reference.toList
  · rw [hnone, hwhole, String.ofList_toList]
  · rw [hsome]

theorem reference?_eq_some_iff {fields : Fields} :
    reference? fields = some reference ↔ Assoc.get? "$ref" fields = some (.str reference) := by
  unfold reference?
  rw [Option.bind_eq_some_iff]
  constructor
  · rintro ⟨w, hget, hw⟩
    cases w with
    | str s => rw [hget, ← Option.some.inj hw]
    | null | bool _ | num _ | arr _ | obj _ => cases hw
  · intro h
    exact ⟨_, h, rfl⟩

theorem names_obj_iff {fields : Fields} : Names (.obj fields) uri ↔
    (uri ≠ "" ∧ ∃ reference, reference? fields = some reference ∧ documentPart reference = uri) ∨
      ∃ p ∈ fields, Names p.2 uri := by
  constructor
  · rintro ⟨hne, reference, hmentions, hpart⟩
    cases hmentions with
    | here h => exact .inl ⟨hne, reference, reference?_eq_some_iff.2 h, hpart⟩
    | field hp h => exact .inr ⟨_, hp, hne, reference, h, hpart⟩
  · rintro (⟨hne, reference, h, hpart⟩ | ⟨p, hp, hne, reference, h, hpart⟩)
    · exact ⟨hne, reference, .here (reference?_eq_some_iff.1 h), hpart⟩
    · exact ⟨hne, reference, .field hp h, hpart⟩

theorem names_arr_iff {items : List Json} :
    Names (.arr items) uri ↔ ∃ v ∈ items, Names v uri := by
  constructor
  · rintro ⟨hne, reference, hmentions, hpart⟩
    cases hmentions with
    | item hv h => exact ⟨_, hv, hne, reference, h, hpart⟩
  · rintro ⟨v, hv, hne, reference, h, hpart⟩
    exact ⟨hne, reference, .item hv h, hpart⟩

theorem not_names_anything : ¬ Names anything uri := by
  rw [anything, names_obj_iff]
  rintro (⟨-, reference, h, -⟩ | ⟨p, hp, -⟩)
  · cases h
  · cases hp

mutual

theorem mem_remoteUris (found : List String) (v : Json) :
    uri ∈ remoteUris found v ↔ uri ∈ found ∨ Names v uri := by
  match v with
  | .obj fields =>
    rw [remoteUris, mem_remoteUrisOfFields, names_obj_iff, ← or_assoc]
    apply or_congr_left
    cases hreference : reference? fields with
    | none => simp
    | some reference =>
      simp only [Option.map_some, Option.getD_some, splitReference_fst, Option.some.injEq,
        exists_eq_left']
      by_cases hempty : documentPart reference = ""
      · simp [hempty, eq_comm]
      · by_cases hfound : documentPart reference ∈ found
        · simp only [List.contains_eq_mem, hfound, decide_true, Bool.or_true, if_true]
          grind
        · simp only [List.contains_eq_mem, hfound, hempty, decide_false, Bool.or_self,
            Bool.false_eq_true, if_false, List.mem_append, List.mem_singleton]
          grind
  | .arr items => rw [remoteUris, mem_remoteUrisOfItems, names_arr_iff]
  | .null | .bool _ | .num _ | .str _ =>
    refine ⟨.inl, ?_⟩
    rintro (h | ⟨-, _, h, -⟩)
    · exact h
    · cases h

theorem mem_remoteUrisOfFields (found : List String) (fields : List (String × Json)) :
    uri ∈ remoteUrisOfFields found fields ↔ uri ∈ found ∨ ∃ p ∈ fields, Names p.2 uri := by
  match fields with
  | [] => simp [remoteUrisOfFields]
  | (k, v) :: rest =>
    rw [remoteUrisOfFields, mem_remoteUrisOfFields, mem_remoteUris, or_assoc]
    simp only [List.mem_cons, exists_eq_or_imp]

theorem mem_remoteUrisOfItems (found : List String) (items : List Json) :
    uri ∈ remoteUrisOfItems found items ↔ uri ∈ found ∨ ∃ v ∈ items, Names v uri := by
  match items with
  | [] => simp [remoteUrisOfItems]
  | v :: vs =>
    rw [remoteUrisOfItems, mem_remoteUrisOfItems, mem_remoteUris, or_assoc]
    simp only [List.mem_cons, exists_eq_or_imp]

end

namespace Scope

/-- The document kept for an address: the one served, or the empty schema. -/
def served (documents : Dict Json) (uri : String) : Json := (documents.get? uri).getD anything

/-- The loop with no bound on its rounds. With these addresses pending, documents kept and addresses
asked for, it ends with an outcome: the documents and the addresses of the end. -/
inductive Loads (documents : Dict Json) :
    List String → Dict Json → List String → Dict Json × List String → Prop
  | done {resources : Dict Json} {asked : List String} :
      Loads documents [] resources asked (resources, asked)
  | known {uri : String} {pending asked : List String} {resources : Dict Json}
      {outcome : Dict Json × List String} (h : resources.contains uri = true)
      (hrest : Loads documents pending resources asked outcome) :
      Loads documents (uri :: pending) resources asked outcome
  | ask {uri : String} {pending asked : List String} {resources : Dict Json}
      {outcome : Dict Json × List String} (h : resources.contains uri = false)
      (hrest : Loads documents ((remoteUris [] (served documents uri)).reverse ++ pending)
        (resources.insert uri (served documents uri)) (asked ++ [uri]) outcome) :
      Loads documents (uri :: pending) resources asked outcome

/-- How many addresses the documents that are not kept yet would make pending. -/
def outstanding (resources : Dict Json) : List (String × Json) → Nat
  | [] => 0
  | p :: entries =>
    (if resources.contains p.1 then 0 else (remoteUris [] p.2).length) +
      outstanding resources entries

theorem outstanding_empty (entries : List (String × Json)) :
    outstanding .empty entries = (entries.flatMap fun p => remoteUris [] p.2).length := by
  induction entries with
  | nil => rfl
  | cons p entries ih =>
    rw [outstanding, ih, List.flatMap_cons, List.length_append]
    rfl

theorem outstanding_insert_le (resources : Dict Json) (uri : String) (document : Json)
    (entries : List (String × Json)) :
    outstanding (resources.insert uri document) entries ≤ outstanding resources entries := by
  induction entries with
  | nil => exact Nat.le_refl _
  | cons p entries ih =>
    rw [outstanding, outstanding]
    have hkept : resources.contains p.1 = true →
        (resources.insert uri document).contains p.1 = true :=
      fun h => Dict.contains_insert_iff.2 (.inr h)
    grind

/-- Asking for an address takes the addresses of its document out of those outstanding. -/
theorem outstanding_insert (huri : resources.contains uri = false) (document : Json)
    (entries : List (String × Json)) :
    outstanding (resources.insert uri document) entries +
        (remoteUris [] ((Assoc.get? uri entries).getD anything)).length ≤
      outstanding resources entries := by
  induction entries with
  | nil => exact Nat.le_refl _
  | cons p entries ih =>
    obtain ⟨key, v⟩ := p
    rw [outstanding, outstanding, Assoc.get?]
    by_cases hkey : key = uri
    · have hle := outstanding_insert_le resources uri document entries
      have hnew : (resources.insert uri document).contains uri = true :=
        Dict.contains_insert_iff.2 (.inl rfl)
      simp only [hkey, huri, hnew, if_true, Option.getD_some, Bool.false_eq_true, if_false]
      omega
    · have hsame : (resources.insert uri document).contains key = resources.contains key := by
        rw [Dict.contains, Dict.get?_insert, if_neg (Ne.symm hkey), Dict.contains]
      simp only [if_neg hkey, hsame]
      omega

/-- With as much fuel as there are addresses pending and outstanding, the loop comes to its end. -/
theorem loads_load (fuel : Nat) (pending : List String) (resources : Dict Json)
    (asked : List String)
    (hfuel : pending.length + outstanding resources documents.entries ≤ fuel) :
    Loads documents pending resources asked
      (load documents.get? fuel pending resources asked) := by
  induction fuel generalizing pending resources asked with
  | zero =>
    cases pending with
    | nil => exact .done
    | cons uri pending => simp at hfuel
  | succ fuel ih =>
    cases pending with
    | nil => exact .done
    | cons uri pending =>
      rw [load]
      cases huri : resources.contains uri with
      | true =>
        refine .known huri (ih _ _ _ ?_)
        rw [List.length_cons] at hfuel
        omega
      | false =>
        refine .ask huri (ih _ _ _ ?_)
        have hless := outstanding_insert huri (served documents uri) documents.entries
        rw [← Dict.get?, ← served] at hless
        rw [List.length_cons] at hfuel
        rw [List.length_append, List.length_reverse]
        omega

/-- A set of addresses with all that the root names and all that a document served for one of them
names. -/
structure Closed (root : Json) (documents : Dict Json) (S : Set String) : Prop where
  rooted : ∀ uri, Names root uri → uri ∈ S
  named : ∀ uri ∈ S, ∀ document, documents.get? uri = some document →
    ∀ other, Names document other → other ∈ S

/-- What holds in every round: all that is named is asked for or pending, nothing else is, and what
was asked for is kept. -/
structure Progress (root : Json) (documents : Dict Json) (pending : List String)
    (resources : Dict Json) (asked : List String) : Prop where
  nodup : asked.Nodup
  kept : ∀ uri, resources.get? uri = if uri ∈ asked then some (served documents uri) else none
  rooted : ∀ uri, Names root uri → uri ∈ asked ∨ uri ∈ pending
  named : ∀ uri ∈ asked, ∀ other, Names (served documents uri) other →
    other ∈ asked ∨ other ∈ pending
  needed : ∀ S, Closed root documents S → ∀ uri, uri ∈ asked ∨ uri ∈ pending → uri ∈ S

namespace Progress

theorem start (root : Json) (documents : Dict Json) :
    Progress root documents (remoteUris [] root).reverse .empty [] where
  nodup := List.nodup_nil
  kept uri := by simp
  rooted uri h := .inr (List.mem_reverse.2 ((mem_remoteUris [] root).2 (.inr h)))
  named uri h := by cases h
  needed S hS uri h := by
    obtain h | h := h
    · cases h
    · obtain h | h := (mem_remoteUris [] root).1 (List.mem_reverse.1 h)
      · cases h
      · exact hS.rooted uri h

theorem contains_iff (h : Progress root documents pending resources asked) :
    resources.contains uri = true ↔ uri ∈ asked := by
  rw [Dict.contains, h.kept]
  split
  · simp [*]
  · simp [*]

/-- An address that is kept already is dropped. -/
theorem known (h : Progress root documents (uri :: pending) resources asked)
    (huri : resources.contains uri = true) : Progress root documents pending resources asked := by
  have hasked := h.contains_iff.1 huri
  have hdrop {other : String} (hother : other ∈ asked ∨ other ∈ uri :: pending) :
      other ∈ asked ∨ other ∈ pending := by
    obtain hother | hother := hother
    · exact .inl hother
    · obtain rfl | hother := List.mem_cons.1 hother
      · exact .inl hasked
      · exact .inr hother
  refine ⟨h.nodup, h.kept, fun other hother => hdrop (h.rooted other hother),
    fun source hsource other hother => hdrop (h.named source hsource other hother), ?_⟩
  intro S hS other hother
  exact h.needed S hS other (hother.imp_right (List.mem_cons_of_mem _))

/-- An address that is not kept is asked for, and what its document names becomes pending. -/
theorem ask (h : Progress root documents (uri :: pending) resources asked)
    (huri : resources.contains uri = false) :
    Progress root documents ((remoteUris [] (served documents uri)).reverse ++ pending)
      (resources.insert uri (served documents uri)) (asked ++ [uri]) := by
  have hnew : uri ∉ asked := by
    rw [← h.contains_iff, huri]
    exact Bool.false_ne_true
  have hpushed {other : String} : other ∈ (remoteUris [] (served documents uri)).reverse ↔
      Names (served documents uri) other := by
    simp [mem_remoteUris]
  have hmove {other : String} (hother : other ∈ asked ∨ other ∈ uri :: pending) :
      other ∈ asked ++ [uri] ∨
        other ∈ (remoteUris [] (served documents uri)).reverse ++ pending := by
    simp only [List.mem_append, List.mem_singleton]
    obtain hother | hother := hother
    · exact .inl (.inl hother)
    · obtain rfl | hother := List.mem_cons.1 hother
      · exact .inl (.inr rfl)
      · exact .inr (.inr hother)
  refine ⟨?_, ?_, fun other hother => hmove (h.rooted other hother), ?_, ?_⟩
  · rw [List.nodup_append]
    refine ⟨h.nodup, List.pairwise_singleton _ _, ?_⟩
    rintro other hother _ hlast rfl
    rw [List.mem_singleton.1 hlast] at hother
    exact hnew hother
  · intro other
    rw [Dict.get?_insert, h.kept]
    by_cases hother : uri = other
    · simp [hother]
    · simp [hother, Ne.symm hother]
  · intro source hsource other hother
    obtain hsource | hsource := List.mem_append.1 hsource
    · exact hmove (h.named source hsource other hother)
    · rw [List.mem_singleton.1 hsource] at hother
      exact .inr (List.mem_append_left _ (hpushed.2 hother))
  · intro S hS other hother
    have hin : uri ∈ S := h.needed S hS uri (.inr List.mem_cons_self)
    simp only [List.mem_append, List.mem_singleton] at hother
    obtain (hother | rfl) | (hother | hother) := hother
    · exact h.needed S hS other (.inl hother)
    · exact hin
    · have hnames := hpushed.1 hother
      cases hdocument : documents.get? uri with
      | none =>
        rw [served, hdocument] at hnames
        exact absurd hnames not_names_anything
      | some document =>
        rw [served, hdocument] at hnames
        exact hS.named uri hin document hdocument other hnames
    · exact h.needed S hS other (.inr (List.mem_cons_of_mem _ hother))

theorem ends {outcome : Dict Json × List String}
    (hloads : Loads documents pending resources asked outcome)
    (h : Progress root documents pending resources asked) :
    Progress root documents [] outcome.1 outcome.2 := by
  induction hloads with
  | done => exact h
  | known huri _ ih => exact ih (h.known huri)
  | ask huri _ ih => exact ih (h.ask huri)

/-- When nothing is pending, the addresses asked for are the least closed set. -/
theorem isLeast (h : Progress root documents [] resources asked) :
    IsLeast {S | Closed root documents S} {uri | uri ∈ asked} := by
  have hnone {other : String} (hother : other ∈ asked ∨ other ∈ []) : other ∈ asked := by
    simpa using hother
  constructor
  · refine ⟨fun other hother => hnone (h.rooted other hother), ?_⟩
    intro uri huri document hdocument other hother
    have hserved : served documents uri = document := by
      rw [served, hdocument, Option.getD_some]
    exact hnone (h.named uri huri other (hserved ▸ hother))
  · intro S hS other hother
    exact h.needed S hS other (.inl hother)

end Progress

/-- Loading ends for every root and all documents. The addresses asked for are the least set that
the root and the documents served for its members name; each is asked for once, and kept with the
document served for it, or with the empty schema if there is none. -/
theorem compile_asks_least (root : Json) (documents : Dict Json) :
    ∃ resources asked, compile root documents = (⟨root, resources⟩, asked) ∧
      Loads documents (remoteUris [] root).reverse .empty [] (resources, asked) ∧
      IsLeast {S | Closed root documents S} {uri | uri ∈ asked} ∧ asked.Nodup ∧
      ∀ uri, resources.get? uri =
        if uri ∈ asked then some ((documents.get? uri).getD anything) else none := by
  have hfuel : (remoteUris [] root).reverse.length + outstanding .empty documents.entries ≤
      loadFuel root documents := by
    rw [outstanding_empty, List.length_reverse, loadFuel]
    exact Nat.le_succ _
  have hloads := loads_load (loadFuel root documents) (remoteUris [] root).reverse .empty [] hfuel
  have hend := (Progress.start root documents).ends hloads
  exact ⟨_, _, rfl, hloads, hend.isLeast, hend.nodup, hend.kept⟩

/-- Two documents that name each other, and one that cannot be had. -/
example :
    let named (reference : String) : Json := .obj [("$ref", .str reference)]
    let documents := Dict.ofList [("a", .arr [named "b#x", named "c"]), ("b", named "a#y")]
    let (scope, asked) := compile (.arr [named "a", named "#z"]) documents
    asked = ["a", "c", "b"] ∧ scope.resources.get? "c" = some anything := by
  decide +kernel

end Scope
end Caseflow.Schema
