import Caseflow.Template.Render
import Caseflow.Proofs.Template.Cut
import Mathlib.Data.List.Forall2

/-!
# Trees that render alike

Two lists of pieces are built into trees side by side, each with a renderer for included templates
of its own. While what the sections around have gathered renders alike on both sides, the same piece
on both sides keeps it so, and so does an included template on one side against its pieces on the
other.
-/
namespace Caseflow.Template

variable {inc others third : String → List Json → Except Error String}

theorem renderNodes_nil (stack : List Json) : renderNodes inc [] stack = pure "" := by
  rw [renderNodes]
  rfl

theorem renderNodes_cons (n : Node) (ns : List Node) (stack : List Json) :
    renderNodes inc (n :: ns) stack =
      do return (← renderNode inc n stack) ++ (← renderNodes inc ns stack) := by
  rw [renderNodes]

theorem renderNodes_append (ns ms : List Node) (stack : List Json) :
    renderNodes inc (ns ++ ms) stack =
      do return (← renderNodes inc ns stack) ++ (← renderNodes inc ms stack) := by
  induction ns with
  | nil => simp only [List.nil_append, renderNodes_nil, pure_bind, String.empty_append, bind_pure]
  | cons n ns ih =>
    simp only [List.cons_append, renderNodes_cons, ih, bind_assoc, pure_bind, String.append_assoc]

theorem renderNodes_singleton (n : Node) (stack : List Json) :
    renderNodes inc [n] stack = renderNode inc n stack := by
  simp [renderNodes_cons, renderNodes_nil]

/-- Nodes that render to the same, each with its own renderer for included templates. -/
def Alike (inc others : String → List Json → Except Error String) (ns ms : List Node) : Prop :=
  ∀ stack, renderNodes inc ns stack = renderNodes others ms stack

theorem Alike.nil : Alike inc others [] [] := fun _ => by rw [renderNodes, renderNodes]

theorem Alike.append {ns ns' ms ms' : List Node} (h : Alike inc others ns ms)
    (h' : Alike inc others ns' ms') : Alike inc others (ns ++ ns') (ms ++ ms') := by
  intro stack
  rw [renderNodes_append, renderNodes_append, h stack, h' stack]

theorem Alike.section {ns ms : List Node} (h : Alike inc others ns ms) (name : String)
    (inverted : Bool) :
    Alike inc others [.section name inverted ns] [.section name inverted ms] := by
  intro stack
  have hns : renderNodes inc ns = renderNodes others ms := funext h
  rw [renderNodes_singleton, renderNodes_singleton, renderNode, renderNode, hns]

theorem Alike.texts (s t : String) : Alike inc inc [.text s, .text t] [.text (s ++ t)] := by
  intro stack
  rw [renderNodes_cons, renderNodes_singleton, renderNodes_singleton, renderNode, renderNode,
    renderNode]
  rfl

theorem Alike.trans {ns ms ls : List Node} (h : Alike inc others ns ms)
    (h' : Alike others third ms ls) : Alike inc third ns ls :=
  fun stack => (h stack).trans (h' stack)

structure OpenSection.Alike (inc others : String → List Json → Except Error String)
    (s t : OpenSection) : Prop where
  name : s.name = t.name
  inverted : s.inverted = t.inverted
  before : Template.Alike inc others s.before.reverse t.before.reverse

/-- What has been gathered on both sides is alike, section by section. -/
structure Gathered (inc others : String → List Json → Except Error String)
    (opened opened' : List OpenSection) (current current' : List Node) : Prop where
  opened : List.Forall₂ (OpenSection.Alike inc others) opened opened'
  current : Alike inc others current.reverse current'.reverse

/-- Two outcomes of building: alike trees or the same error. -/
def Matches (inc others : String → List Json → Except Error String) :
    Except Error (List Node) → Except Error (List Node) → Prop
  | .ok ns, .ok ms => Alike inc others ns ms
  | .error e, .error f => e = f
  | _, _ => False

/-- Pieces that keep what is gathered on both sides alike. -/
def Agree (inc others : String → List Json → Except Error String) (ps qs : List Piece) : Prop :=
  ∀ ⦃opened opened' current current'⦄, Gathered inc others opened opened' current current' →
    Matches inc others (build opened current ps) (build opened' current' qs)

theorem Matches.trans {r s t : Except Error (List Node)} (h : Matches inc others r s)
    (h' : Matches others third s t) : Matches inc third r t := by
  match r, s, t with
  | .ok _, .ok _, .ok _ => exact Alike.trans h h'
  | .error _, .error _, .error _ => exact Eq.trans h h'

theorem Matches.ok {r : Except Error (List Node)} {ns : List Node}
    (h : Matches inc others (.ok ns) r) : ∃ ms, r = .ok ms ∧ Alike inc others ns ms := by
  match r with
  | .ok ms => exact ⟨ms, rfl, h⟩

theorem Matches.render {r s : Except Error (List Node)} (h : Matches inc others r s)
    (stack : List Json) :
    (do renderNodes inc (← r) stack) = (do renderNodes others (← s) stack) := by
  match r, s with
  | .ok _, .ok _ => exact h stack
  | .error e, .error f =>
    have hef : e = f := h
    rw [hef]
    rfl

theorem Gathered.add {opened opened' : List OpenSection} {current current' : List Node}
    (h : Gathered inc others opened opened' current current') (ns ms : List Node)
    (hns : Alike inc others ns ms) :
    Gathered inc others opened opened' (ns.reverse ++ current) (ms.reverse ++ current') := by
  refine ⟨h.opened, ?_⟩
  rw [List.reverse_append, List.reverse_append, List.reverse_reverse, List.reverse_reverse]
  exact h.current.append hns

theorem Gathered.nil : Gathered inc others [] [] [] [] := ⟨.nil, .nil⟩

theorem Gathered.refl (opened : List OpenSection) (current : List Node) :
    Gathered inc inc opened opened current current :=
  ⟨List.forall₂_same.2 fun _ _ => ⟨rfl, rfl, fun _ => rfl⟩, fun _ => rfl⟩

/-- Pieces other than an included template are rendered without the renderer for these. -/
def Shared (inc others : String → List Json → Except Error String) (p : Piece) : Prop :=
  ∀ name, p = .tag (.include name) → ∀ stack, inc name stack = others name stack

theorem Agree.nil : Agree inc others [] [] := by
  intro opened opened' current current' h
  cases h.opened with
  | nil => exact h.current
  | cons hst hrest => exact congrArg Error.unclosedSection hst.name

/-- The same piece on both sides keeps what is gathered alike. -/
theorem Agree.cons {p : Piece} {ps qs : List Piece} (hp : Shared inc others p)
    (h : Agree inc others ps qs) : Agree inc others (p :: ps) (p :: qs) := by
  intro opened opened' current current' hg
  have hadd {n : Node} (hn : ∀ stack, renderNode inc n stack = renderNode others n stack) :
      Gathered inc others opened opened' (n :: current) (n :: current') :=
    hg.add [n] [n] fun stack => by
      rw [renderNodes_singleton, renderNodes_singleton, hn stack]
  cases p with
  | text s =>
    rw [build, build]
    exact h (hadd fun stack => by rw [renderNode, renderNode])
  | unclosed | unclosedTriple => rfl
  | tag t =>
    cases t with
    | comment =>
      rw [build, build]
      exact h hg
    | delimiters => rfl
    | «open» name inverted =>
      rw [build, build]
      exact h ⟨.cons ⟨rfl, rfl, hg.current⟩ hg.opened, .nil⟩
    | «close» name =>
      cases hg.opened with
      | nil => rfl
      | @cons s t rest rest' hst hrest =>
        rw [build, build, hst.name, hst.inverted]
        split
        · refine h ⟨hrest, ?_⟩
          rw [List.reverse_cons, List.reverse_cons]
          exact hst.before.append (hg.current.section name t.inverted)
        · rfl
    | «include» name =>
      rw [build, build]
      exact h (hadd fun stack => by rw [renderNode, renderNode, hp name rfl])
    | «variable» name =>
      rw [build, build]
      split
      · rfl
      · exact h (hadd fun stack => by rw [renderNode, renderNode])

theorem Agree.refl (ps : List Piece) : Agree inc inc ps ps := by
  induction ps with
  | nil => exact .nil
  | cons p ps ih => exact ih.cons fun _ _ _ => rfl

/-- A text that has come to stand before a text is one with it. -/
theorem Agree.onto {p : Piece} {ps qs : List Piece} (h : Agree inc inc ps qs) :
    Agree inc inc (p :: ps) (p.onto qs) := by
  have hp : Agree inc inc (p :: ps) (p :: qs) := h.cons fun _ _ _ => rfl
  match p, qs with
  | .text s, .text t :: qs =>
    intro opened opened' current current' hg
    have hjoined : Gathered inc inc opened' opened' (.text t :: .text s :: current')
        (.text (s ++ t) :: current') :=
      (Gathered.refl opened' current').add [.text s, .text t] [.text (s ++ t)] (.texts s t)
    refine (hp hg).trans ?_
    rw [Piece.onto, build, build, build]
    exact Agree.refl qs hjoined
  | .text _, [] | .text _, .tag _ :: _ | .text _, .unclosed :: _ | .text _, .unclosedTriple :: _
  | .tag _, _ | .unclosed, _ | .unclosedTriple, _ => exact hp

theorem Agree.foldr_onto (ps : List Piece) : Agree inc inc ps (ps.foldr Piece.onto []) := by
  induction ps with
  | nil => exact .nil
  | cons p ps ih => exact ih.onto

/-- Pieces from which a tree is built are closed at first, and a tree is built from the others. -/
theorem build_cons_ok {opened : List OpenSection} {current nodes : List Node} {p : Piece}
    {ps : List Piece} (h : build opened current (p :: ps) = .ok nodes) :
    (p ≠ .unclosed ∧ p ≠ .unclosedTriple) ∧
      ∃ opened' current', build opened' current' ps = .ok nodes := by
  cases p with
  | text s =>
    rw [build] at h
    exact ⟨⟨nofun, nofun⟩, _, _, h⟩
  | unclosed | unclosedTriple => cases h
  | tag t =>
    refine ⟨⟨nofun, nofun⟩, ?_⟩
    cases t with
    | delimiters => cases h
    | comment | «open» | «include» =>
      rw [build] at h
      exact ⟨_, _, h⟩
    | «close» name =>
      cases opened with
      | nil => cases h
      | cons s opened =>
        rw [build] at h
        split at h
        · exact ⟨_, _, h⟩
        · cases h
    | «variable» name =>
      rw [build] at h
      split at h
      · cases h
      · exact ⟨_, _, h⟩

/-- A tree is built from closed pieces only. -/
theorem closed_of_build {opened : List OpenSection} {current nodes : List Node}
    {ps : List Piece} (h : build opened current ps = .ok nodes) :
    ∀ p ∈ ps, p ≠ .unclosed ∧ p ≠ .unclosedTriple := by
  induction ps generalizing opened current with
  | nil => exact nofun
  | cons p ps ih =>
    obtain ⟨hp, opened', current', hps⟩ := build_cons_ok h
    exact List.forall_mem_cons.2 ⟨hp, ih hps⟩

/-- The open sections of a template that stands inside others, and its current nodes: the outermost
of its own nodes come behind those that stand before it. -/
def placed (opened : List OpenSection) (base : List Node) :
    List OpenSection → List Node → List OpenSection × List Node
  | [], current => (opened, current ++ base)
  | s :: inner, current =>
    let (around, before) := placed opened base inner s.before
    (⟨s.name, s.inverted, before⟩ :: around, current)

theorem placed_add (opened : List OpenSection) (base : List Node) (inner : List OpenSection)
    (current : List Node) (n : Node) :
    placed opened base inner (n :: current) =
      ((placed opened base inner current).1, n :: (placed opened base inner current).2) := by
  cases inner <;> rfl

/-- Pieces that make a tree of their own make the same nodes inside other sections. By induction on
the pieces, whatever sections of their own are open. -/
theorem build_placed {ps : List Piece} {inner : List OpenSection} {current nodes : List Node}
    (h : build inner current ps = .ok nodes) (opened : List OpenSection) (base : List Node)
    (rest : List Piece) :
    build (placed opened base inner current).1 (placed opened base inner current).2 (ps ++ rest) =
      build opened (nodes.reverse ++ base) rest := by
  induction ps generalizing inner current with
  | nil =>
    cases inner with
    | nil =>
      cases h
      rw [List.reverse_reverse]
      rfl
    | cons s inner => cases h
  | cons p ps ih =>
    cases p with
    | text s =>
      rw [build] at h
      rw [← ih h, placed_add]
      rfl
    | unclosed | unclosedTriple => cases h
    | tag t =>
      cases t with
      | comment =>
        rw [build] at h
        exact ih h
      | delimiters => cases h
      | «open» name inverted =>
        rw [build] at h
        exact ih h
      | «close» name =>
        cases inner with
        | nil => cases h
        | cons s inner =>
          rw [build] at h
          split at h
          next hname =>
            rw [← ih h, placed_add]
            exact if_pos hname
          next => cases h
      | «include» name =>
        rw [build] at h
        rw [← ih h, placed_add]
        rfl
      | «variable» name =>
        rw [build] at h
        split at h
        next => cases h
        next hname =>
          rw [← ih h, placed_add]
          exact if_neg hname

/-- An included template on one side agrees with its pieces on the other. -/
theorem Agree.included {name : String} {own ps qs : List Piece} {nodes : List Node}
    (hown : build [] [] own = .ok nodes)
    (hinc : ∀ stack, inc name stack = renderNodes others nodes stack)
    (h : Agree inc others ps qs) :
    Agree inc others (.tag (.include name) :: ps) (own ++ qs) := by
  intro opened opened' current current' hg
  have hbuild : build opened' current' (own ++ qs) = build opened' (nodes.reverse ++ current') qs :=
    build_placed hown opened' current' qs
  rw [build, hbuild]
  refine h (hg.add [.include name] nodes fun stack => ?_)
  rw [renderNodes_singleton, renderNode, hinc stack]

end Caseflow.Template
