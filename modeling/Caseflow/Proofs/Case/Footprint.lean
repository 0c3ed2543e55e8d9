import Caseflow.Proofs.Case.Writes
import Caseflow.Regex.Search

/-!
# Where updates write

The target of an update leads through one of the five roots that updates may write at or below, name
by name and not only as a text. So whatever updates do, the other fields of a context stay, and
those of its current state but the one who acts; and apart from the targets everything reads as
before.
-/
namespace Caseflow.Case

open Scenario

variable {regex : Regex.Engine} {predicting : Bool} {ctx final v : Json} {fields current : Fields}
  {root path : String} {u : Update} {updates earlier later : List Update}

instance (path other : List String) : Decidable (Apart path other) :=
  inferInstanceAs (Decidable (_ ∧ _))

theorem toList_of_isBelow (h : isBelow root path = true) :
    path = root ∨ ∃ rest, path.toList = root.toList ++ '.' :: rest := by
  rw [isBelow, Bool.or_eq_true, beq_iff_eq] at h
  refine h.imp_right ?_
  intro h
  split at h
  · rename_i rest hrest
    rw [Bool.and_eq_true, Text.startsWith, List.isPrefixOf_iff_prefix] at h
    obtain ⟨more, hmore⟩ := h.1
    refine ⟨more, ?_⟩
    rw [Text.after?_eq_some_iff.1 hrest, String.toList_append, ← hmore]
    rfl
  · cases h

theorem prefix_pathOf (h : isBelow root u.target = true) : Text.split '.' root <+: pathOf u := by
  obtain htarget | ⟨rest, hrest⟩ := toList_of_isBelow h
  · have hpath : pathOf u = Text.split '.' root := by rw [pathOf, htarget]
    exact hpath ▸ List.prefix_rfl
  · rw [pathOf, Text.split, Text.split, hrest, Text.splitChars_append_cons, List.map_append]
    exact List.prefix_append _ _

def writablePaths : List (List String) := writableRoots.map (Text.split '.')

theorem exists_prefix_pathOf (h : isAllowedTarget u.target = true) :
    ∃ place ∈ writablePaths, place <+: pathOf u := by
  obtain ⟨root, hroot, hbelow⟩ := List.any_eq_true.1 h
  exact ⟨_, List.mem_map_of_mem hroot, prefix_pathOf hbelow⟩

theorem writablePaths_eq : writablePaths =
    [["title"], ["actors"], ["vars"], ["result"], ["current", "actor"]] := by
  decide

/-- A context that has the fields of another, and in its current state the fields of that one's,
all but those that updates may write. -/
def KeepsOthers (fields current : Fields) (v : Json) : Prop :=
  ∃ left now, v = .obj left ∧ Assoc.get? "current" left = some (.obj now) ∧
    (∀ name, name ∉ ["title", "actors", "vars", "result", "current"] →
      Assoc.get? name left = Assoc.get? name fields) ∧
    ∀ name, name ≠ "actor" → Assoc.get? name now = Assoc.get? name current

theorem KeepsOthers.modifyAt (h : KeepsOthers fields current v)
    (hallowed : isAllowedTarget u.target = true) (change : Json → Json) :
    KeepsOthers fields current (modifyAt change (pathOf u) v) := by
  obtain ⟨left, now, rfl, hnow, hleft, hothers⟩ := h
  obtain ⟨place, hplace, more, hpath⟩ := exists_prefix_pathOf hallowed
  rw [← hpath]
  rw [writablePaths_eq] at hplace
  have htop (name : String) (hname : name ∈ ["title", "actors", "vars", "result"]) :
      KeepsOthers fields current (Case.modifyAt change ([name] ++ more) (.obj left)) := by
    have hcurrent : name ≠ "current" := by
      rintro rfl
      exact absurd hname (by decide)
    refine ⟨_, now, rfl, (Assoc.get?_insert_of_ne hcurrent _ _).trans hnow, ?_, hothers⟩
    intro other hother
    refine (Assoc.get?_insert_of_ne ?_ _ _).trans (hleft other hother)
    rintro rfl
    exact hother (List.mem_append_left ["current"] hname)
  simp only [List.mem_cons, List.not_mem_nil, or_false] at hplace
  obtain rfl | rfl | rfl | rfl | rfl := hplace
  · exact htop "title" (by decide)
  · exact htop "actors" (by decide)
  · exact htop "vars" (by decide)
  · exact htop "result" (by decide)
  · have hfield : (Json.obj left).field "current" = .obj now := field_of_field? hnow
    refine ⟨_, Assoc.insert "actor" (Case.modifyAt change more ((Json.obj now).field "actor")) now,
      rfl, ?_, ?_, ?_⟩
    · rw [Assoc.get?_insert_self, hfield]
      rfl
    · intro name hname
      refine (Assoc.get?_insert_of_ne ?_ _ _).trans (hleft name hname)
      rintro rfl
      exact hname (by decide)
    · intro name hname
      exact (Assoc.get?_insert_of_ne hname.symm _ _).trans (hothers name hname)

theorem Applied.keepsOthers {writes : List Write}
    (h : Applied regex predicting ctx updates writes final)
    (hctx : KeepsOthers fields current ctx) : KeepsOthers fields current final := by
  induction h with
  | done => exact hctx
  | skipped _ _ _ ih => exact ih hctx
  | written hallowed _ _ _ ih => exact ih (hctx.modifyAt hallowed _)

theorem applyUpdates_append : applyUpdates regex predicting ctx (earlier ++ later) =
    applyUpdates regex predicting ctx earlier >>= (applyUpdates regex predicting · later) := by
  induction earlier generalizing ctx with
  | nil => rfl
  | cons u rest ih =>
    rw [List.cons_append, applyUpdates, applyUpdates]
    cases applyUpdate regex predicting ctx u with
    | error e => rfl
    | ok next => exact ih

/-- An update that replaces is read back, whatever was on the way to its target. -/
theorem valueAt?_replaced {next : Json} (h : applyUpdate regex predicting ctx u = .ok next)
    (hmode : u.mode = .replace) (hguard : holds regex ctx u.guard = .ok true) :
    ∃ value, evaluate regex ctx (sourceOf predicting u) = .ok value ∧
      valueAt? (pathOf u) next = some value := by
  obtain ⟨-, ⟨hclosed, -⟩ | ⟨-, value, hvalue, rfl⟩⟩ := applyUpdate_eq_ok_iff.1 h
  · rw [hclosed] at hguard
    cases hguard
  · refine ⟨value, hvalue, ?_⟩
    rw [valueAt?_modifyAt, hmode]
    rfl

/-- A context in which the variables are no object yet. -/
def orderContext : Fields := [
  ("current", .obj [("actor", .obj [("key", .str "client")]), ("key", .str "initial")]),
  ("title", .str "Order"), ("vars", .str "none")]

/-- A note on the one who acts, and what is ordered. -/
def orderUpdates : List Update := [
  ⟨"current.actor.notes", .str "urgent", none, .append, .bool true⟩,
  ⟨"vars.item.name", .str "pen", none, .replace, .bool true⟩]

theorem order_shown : (do
    let noted ← (applyUpdates Regex.linear false (.obj orderContext) (orderUpdates.take 1)).toOption
    let applies ← (holds Regex.linear noted (.bool true)).toOption
    let value ← (evaluate Regex.linear noted (.str "pen")).toOption
    let final ← (applyUpdates Regex.linear false (.obj orderContext) orderUpdates).toOption
    return (applies, value, valueAt? ["current", "actor", "notes"] final)) =
      some (true, .str "pen", some (.arr [.str "urgent"])) := by
  decide +kernel

/-- Updates that succeed leave alone all paths that are apart from their targets; of a context they
leave all but four fields and the one who acts in its current state. An update that replaces is read
back at its target right after it. -/
theorem updates_in_place (hcurrent : Assoc.get? "current" fields = some (.obj current))
    (h : applyUpdates regex predicting (.obj fields) updates = .ok final) :
    (∀ path, (∀ u ∈ updates, Apart path (pathOf u)) →
      valueAt? path final = valueAt? path (.obj fields)) ∧
    KeepsOthers fields current final ∧
    ∀ earlier u later, updates = earlier ++ u :: later → ∃ before after,
      applyUpdates regex predicting (.obj fields) earlier = .ok before ∧
      applyUpdate regex predicting before u = .ok after ∧
      applyUpdates regex predicting after later = .ok final ∧
      (u.mode = .replace → holds regex before u.guard = .ok true →
        ∃ value, evaluate regex before (sourceOf predicting u) = .ok value ∧
          valueAt? (pathOf u) after = some value) := by
  have happlied := applied_writesOf h
  refine ⟨?_, ?_, ?_⟩
  · intro path hapart
    apply happlied.frame
    intro w hw
    obtain ⟨u, hu, -, hpath⟩ := happlied.exists_update w hw
    rw [hpath]
    exact hapart u hu
  · exact happlied.keepsOthers
      ⟨fields, current, rfl, hcurrent, fun _ _ => rfl, fun _ _ => rfl⟩
  · rintro earlier u later rfl
    rw [applyUpdates_append, bind_eq_ok_iff] at h
    obtain ⟨before, hbefore, h⟩ := h
    obtain ⟨after, hafter, hlater⟩ := bind_eq_ok_iff.1 h
    exact ⟨before, after, hbefore, hafter, hlater, valueAt?_replaced hafter⟩

/-- The title and the key of the state stay, and the order is read where it was written. -/
theorem order_in_place :
    ∃ final now, applyUpdates Regex.linear false (.obj orderContext) orderUpdates = .ok final ∧
      valueAt? ["title"] final = some (.str "Order") ∧
      final.field? "current" = some (.obj now) ∧ Assoc.get? "key" now = some (.str "initial") ∧
      valueAt? ["vars", "item", "name"] final = some (.str "pen") := by
  have hshown := order_shown
  simp only [Option.bind_eq_bind, Option.bind_eq_some_iff, toOption_eq_some_iff] at hshown
  obtain ⟨noted, hnoted, applies, hguard, value, hvalue, final, hfinal, heq⟩ := hshown
  obtain ⟨rfl, hrest⟩ := Prod.mk.inj (Option.some.inj heq)
  obtain ⟨rfl, -⟩ := Prod.mk.inj hrest
  obtain ⟨hapart, ⟨left, now, rfl, hnow, -, hothers⟩, hwritten⟩ := updates_in_place rfl hfinal
  obtain ⟨before, after, hbefore, -, hlater, hread⟩ := hwritten (orderUpdates.take 1) _ [] rfl
  cases hnoted.symm.trans hbefore
  obtain ⟨value, hwrote, hread⟩ := hread rfl hguard
  cases hvalue.symm.trans hwrote
  cases hlater
  exact ⟨_, now, hfinal, hapart ["title"] (by decide), hnow, hothers "key" (by decide), hread⟩

end Caseflow.Case
