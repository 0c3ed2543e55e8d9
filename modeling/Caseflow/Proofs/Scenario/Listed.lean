import Caseflow.Proofs.Schema.Actor
import Caseflow.Proofs.Scenario.Normalization

/-!
# States with all their transitions listed

A state may write one transition among its own fields. Put to the front of the list of transitions,
it is read as the same state. Likewise, what is shared with a state can be written out in it: the
shared transitions after its own, and the shared fields below its own.
-/
namespace Caseflow.Scenario

open Json Schema

variable {v : Json} {fields own shared : Fields} {key name : String} {a w : AuthoredState}
  {ts : List Json}

def ownFields (v : Json) : Fields := v.asObject?.getD []

def ownTransitions (fields : Fields) : List Json :=
  ((Assoc.get? "transitions" fields).bind asArray?).getD []

/-- Whether a field of a state is part of a transition that the state writes directly. -/
def isDirect (key : String) : Bool := ["on", "by", "after", "goto", "if", "log"].contains key

/-- The fields of a state, with its direct transition as the first in its list. -/
def directFirst (fields : Fields) : Fields :=
  if Assoc.contains "on" fields || Assoc.contains "after" fields then
    Assoc.insert "transitions"
      (.arr (.obj (fields.filter (isDirect ·.1)) :: ownTransitions fields))
      (fields.filter (!isDirect ·.1))
  else fields

def listDirect : Json → Json
  | .obj fields => .obj (directFirst fields)
  | v => v

/-- The fields of a state, put over those of the shared one; two sets of instructions are put over
each other. -/
def ownOverShared (shared own : Fields) : Fields :=
  match Assoc.get? "instructions" own, Assoc.get? "instructions" shared with
  | some (.obj texts), some (.obj more) =>
    Assoc.insert "instructions" (.obj (Assoc.extend more texts)) (Assoc.extend shared own)
  | _, _ => Assoc.extend shared own

/-- A state that has all that is shared, the shared transitions after its own. -/
def withShared (shared own : Fields) : Fields :=
  Assoc.insert "transitions" (.arr (ownTransitions own ++ ownTransitions shared))
    (ownOverShared shared own)

/-- Fields without a direct transition, and the state that they are read as. -/
structure Listed (fields : Fields) (a : AuthoredState) : Prop where
  ascend : KeysAscend fields
  texts : ∀ texts, Assoc.get? "instructions" fields = some (.obj texts) → KeysAscend texts
  undirected : ∀ name ∈ ["on", "after", "goto"], Assoc.get? name fields = none
  transitions : ∀ key, AuthoredState.listed key (Authored.present? "transitions" fields) =
    .ok a.transitions
  rest : a.fields = Assoc.erase "transitions" fields

theorem ownTransitions_of_listed
    (h : AuthoredState.listed key (Authored.present? "transitions" fields) = .ok ts) :
    ownTransitions fields = ts := by
  unfold Authored.present? at h
  unfold ownTransitions
  cases hlist : Assoc.get? "transitions" fields with
  | none =>
    rw [hlist] at h
    cases h
    rfl
  | some v =>
    rw [hlist] at h
    cases v with
    | null | arr _ =>
      cases h
      rfl
    | bool _ | num _ | str _ | obj _ => cases h

theorem listed_congr {other : String}
    (h : AuthoredState.listed key (Authored.present? "transitions" fields) = .ok ts) :
    AuthoredState.listed other (Authored.present? "transitions" fields) = .ok ts := by
  cases hlist : Authored.present? "transitions" fields with
  | none =>
    rw [hlist] at h
    exact h
  | some v =>
    rw [hlist] at h
    cases v with
    | arr _ => exact h
    | null | bool _ | num _ | str _ | obj _ => cases h

theorem listed_insert (key : String) (ts : List Json) (fields : Fields) :
    AuthoredState.listed key
      (Authored.present? "transitions" (Assoc.insert "transitions" (.arr ts) fields)) = .ok ts := by
  rw [Authored.present?, Assoc.get?_insert_self]
  rfl

theorem ne_transitions (h : name ∈ ["on", "after", "goto"]) : "transitions" ≠ name := by
  rintro rfl
  exact absurd h (by decide)

theorem Listed.read (h : Listed fields a) (key : String) :
    AuthoredState.read key (.obj fields) = .ok a := by
  have hnone (name : String) (hname : name ∈ ["on", "after", "goto"]) :
      Assoc.contains name (Assoc.erase "transitions" fields) = false := by
    rw [Assoc.contains, Assoc.get?_erase_of_ne (ne_transitions hname), h.undirected name hname]
    rfl
  refine bind_eq_ok_iff.2 ⟨fields, rfl, bind_eq_ok_iff.2 ⟨_, h.transitions key, ?_⟩⟩
  dsimp only
  rw [hnone "on" (by decide), hnone "after" (by decide), hnone "goto" (by decide), ← h.rest]
  rfl

/-- The fields that go to the front of the list are those that are taken out of the state. -/
theorem direct_erase (h : KeysAscend fields) :
    (Assoc.erase "transitions" fields).filter (isDirect ·.1) = fields.filter (isDirect ·.1) := by
  rw [Assoc.erase_eq_filter h, List.filter_filter]
  apply List.filter_congr
  intro p hp
  by_cases hkey : p.1 = "transitions"
  · rw [hkey]
    decide
  · simp [hkey]

/-- Without the fields of its direct transition, a state has its other fields and the list. -/
theorem listed_direct (hfields : (obj fields).ordered = true)
    (hts : AuthoredState.listed key (Authored.present? "transitions" fields) = .ok ts)
    (hdirect : Assoc.contains "on" fields || Assoc.contains "after" fields) :
    Listed (directFirst fields)
      ⟨(Assoc.erase "transitions" fields).filter (!isDirect ·.1),
        .obj ((Assoc.erase "transitions" fields).filter (isDirect ·.1)) :: ts⟩ := by
  obtain ⟨hascend, hordered⟩ := ordered_obj_iff.1 hfields
  have hothers : KeysAscend (fields.filter (!isDirect ·.1)) := hascend.filter _
  have hread {k : String} (hk : "transitions" ≠ k) (value : Json) :
      Assoc.get? k (Assoc.insert "transitions" value (fields.filter (!isDirect ·.1))) =
        if !isDirect k then Assoc.get? k fields else none := by
    rw [Assoc.get?_insert_of_ne hk, Assoc.get?_filter (!isDirect ·)]
  rw [directFirst, if_pos hdirect, ownTransitions_of_listed hts]
  refine ⟨hothers.insert, ?_, ?_, ?_, ?_⟩
  · intro texts htexts
    rw [hread (by decide)] at htexts
    exact (ordered_obj_iff.1 (hordered _ (Assoc.mem_of_get? htexts))).1
  · intro name hname
    have hgone : ∀ name ∈ ["on", "after", "goto"], (!isDirect name) = false := by decide
    rw [hread (ne_transitions hname), hgone name hname]
    rfl
  · intro other
    rw [direct_erase hascend]
    exact listed_insert other _ _
  · rw [Assoc.erase_insert_self _ hothers]
    exact Assoc.filter_erase (!isDirect ·) hascend

/-- A state is read as what it is once its direct transition is listed. -/
theorem listed_of_read (hv : v.ordered = true) (hread : AuthoredState.read key v = .ok a) :
    Listed (ownFields (listDirect v)) a := by
  obtain ⟨fields, hfields, hlist⟩ := bind_eq_ok_iff.1 hread
  obtain ⟨ts, hts, h⟩ := bind_eq_ok_iff.1 hlist
  dsimp only at h
  have hcontains {name : String} (hne : "transitions" ≠ name) :
      Assoc.contains name (Assoc.erase "transitions" fields) = Assoc.contains name fields := by
    rw [Assoc.contains, Assoc.get?_erase_of_ne hne, Assoc.contains]
  rw [hcontains (by decide), hcontains (by decide), hcontains (by decide)] at h
  cases v with
  | null =>
    cases hfields
    cases hts
    cases h
    refine ⟨keysAscend_nil, ?_, fun _ _ => rfl, fun _ => rfl, rfl⟩
    intro texts htexts
    cases htexts
  | obj own =>
    cases hfields
    change Listed (directFirst fields) a
    split at h
    · rename_i hdirect
      cases h
      exact listed_direct hv hts hdirect
    · rename_i hnone
      split at h
      · cases h
      · rename_i hgoto
        cases h
        obtain ⟨hascend, hordered⟩ := ordered_obj_iff.1 hv
        rw [directFirst, if_neg hnone]
        refine ⟨hascend, ?_, ?_, fun _ => listed_congr hts, rfl⟩
        · intro texts htexts
          exact (ordered_obj_iff.1 (hordered _ (Assoc.mem_of_get? htexts))).1
        · simpa [Assoc.contains, and_assoc] using And.intro hnone hgoto
  | bool _ | num _ | str _ | arr _ => cases hfields

theorem read_listDirect (hv : v.ordered = true) (h : AuthoredState.read key v = .ok a) :
    AuthoredState.read key (listDirect v) = .ok a := by
  cases v with
  | obj fields => exact (listed_of_read hv h).read key
  | null | bool _ | num _ | str _ | arr _ => exact h

theorem keysAscend_ownOverShared (h : KeysAscend shared) :
    KeysAscend (ownOverShared shared own) := by
  unfold ownOverShared
  split
  · exact (Assoc.keysAscend_extend h).insert
  · exact Assoc.keysAscend_extend h

/-- A field of a state's own stays, unless it is one of two sets of instructions. -/
theorem sharedValue_some {mine value : Json}
    (h : ∀ texts more, mine = .obj texts → value = .obj more → key ≠ "instructions") :
    AuthoredState.sharedValue key (some mine) value = mine := by
  unfold AuthoredState.sharedValue
  split
  · contradiction
  · rename_i texts more heq
    cases heq
    rw [if_neg (h texts more rfl rfl)]
  · rename_i heq _
    exact (Option.some.inj heq).symm

theorem get?_ownOverShared (hown : Listed own a) (hshared : Listed shared w) (key : String) :
    Assoc.get? key (ownOverShared shared own) = ((Assoc.get? key shared).map
      (AuthoredState.sharedValue key (Assoc.get? key own))).or (Assoc.get? key own) := by
  have hplain (h : ∀ texts more, Assoc.get? key own = some (.obj texts) →
      Assoc.get? key shared = some (.obj more) → key ≠ "instructions") :
      Assoc.get? key (Assoc.extend shared own) = ((Assoc.get? key shared).map
        (AuthoredState.sharedValue key (Assoc.get? key own))).or (Assoc.get? key own) := by
    rw [Assoc.get?_extend hown.ascend]
    cases hmine : Assoc.get? key own with
    | none =>
      rw [Option.none_or, Option.or_none]
      cases Assoc.get? key shared <;> rfl
    | some mine =>
      cases hvalue : Assoc.get? key shared with
      | none => rfl
      | some value =>
        rw [Option.map_some, sharedValue_some]
        · rfl
        · rintro texts more rfl rfl
          exact h texts more hmine hvalue
  unfold ownOverShared
  split
  · rename_i texts more htexts hmore
    by_cases hkey : key = "instructions"
    · subst hkey
      rw [Assoc.get?_insert_self, htexts, hmore, Option.map_some, AuthoredState.sharedValue,
        if_pos rfl, Shorthand.addMissing_eq_extend (hshared.texts _ hmore) (hown.texts _ htexts)]
      rfl
    · rw [Assoc.get?_insert_of_ne (Ne.symm hkey)]
      exact hplain fun _ _ _ _ => hkey
  · rename_i hnot
    apply hplain
    rintro texts more htexts hmore rfl
    exact hnot texts more htexts hmore

theorem get?_share (hown : Listed own a) (hshared : Listed shared w) (key : String) :
    Assoc.get? key (AuthoredState.share w a).fields =
      if "transitions" = key then none else Assoc.get? key (ownOverShared shared own) := by
  have hfields : KeysAscend w.fields := by
    rw [hshared.rest]
    exact Assoc.keysAscend_erase hshared.ascend
  refine (Assoc.get?_foldl_insert AuthoredState.sharedValue hfields a.fields key).trans ?_
  rw [hshared.rest, hown.rest, Assoc.get?_erase hshared.ascend, Assoc.get?_erase hown.ascend,
    get?_ownOverShared hown hshared]
  split
  · rfl
  · rfl

/-- A state with all that is shared written out is read as the state that is shared with. -/
theorem listed_withShared (hown : Listed own a) (hshared : Listed shared w) :
    Listed (withShared shared own) (AuthoredState.share w a) := by
  have hascend : KeysAscend (ownOverShared shared own) := keysAscend_ownOverShared hshared.ascend
  have hread {name : String} (hne : "transitions" ≠ name) :
      Assoc.get? name (withShared shared own) = Assoc.get? name (ownOverShared shared own) :=
    Assoc.get?_insert_of_ne hne _ _
  refine ⟨hascend.insert, ?_, ?_, ?_, ?_⟩
  · intro texts htexts
    rw [hread (by decide), ownOverShared] at htexts
    split at htexts
    · rename_i hmore
      rw [Assoc.get?_insert_self] at htexts
      cases htexts
      exact Assoc.keysAscend_extend (hshared.texts _ hmore)
    · rw [Assoc.get?_extend hown.ascend, Option.or_eq_some_iff] at htexts
      obtain hmine | ⟨-, hmore⟩ := htexts
      · exact hown.texts _ hmine
      · exact hshared.texts _ hmore
  · intro name hname
    rw [hread (ne_transitions hname), get?_ownOverShared hown hshared, hown.undirected name hname,
      hshared.undirected name hname]
    rfl
  · intro key
    have hlists : (AuthoredState.share w a).transitions =
        ownTransitions own ++ ownTransitions shared := by
      rw [ownTransitions_of_listed (hown.transitions key),
        ownTransitions_of_listed (hshared.transitions key)]
      rfl
    rw [hlists]
    exact listed_insert key _ _
  · have hfields : KeysAscend (AuthoredState.share w a).fields := by
      refine Assoc.keysAscend_foldl_insert _ ?_
      rw [hown.rest]
      exact Assoc.keysAscend_erase hown.ascend
    apply Assoc.ext_get? hfields (Assoc.keysAscend_erase hascend.insert)
    intro key
    rw [get?_share hown hshared, Assoc.get?_erase hascend.insert]
    split
    · rfl
    · rename_i hne
      exact (hread hne).symm

end Caseflow.Scenario
