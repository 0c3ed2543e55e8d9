import Caseflow.Template.Render
import Caseflow.Proofs.Template.Cut
import Caseflow.Proofs.Text.Runs
import Mathlib.Data.List.Infix
import Mathlib.Tactic.MkIffOfInductiveProp

/-!
# Templates spelled from trees

Every node has a spelling of its own. Read from the front of a text, the spelling of a node adds
that node to what is gathered and leaves the rest of the text as it is, whatever sections are open;
so a spelled tree is read as that tree. The texts of a tree have to be such that they end where
they were put: a text goes on into a text that follows it, and a brace at its end into a tag.
-/
namespace Caseflow.Template

open Text

variable {name s : String} {tag : Tag}

def Tag.content : Tag → List Char
  | .comment => ['!']
  | .open name false => '#' :: name.toList
  | .open name true => '^' :: name.toList
  | .close name => '/' :: name.toList
  | .include name => '>' :: ' ' :: name.toList
  | .variable name => name.toList
  | .delimiters => ['=']

def spellTag (tag : Tag) : String :=
  String.ofList (['\x7b', '\x7b'] ++ (tag.content ++ ['\x7d', '\x7d']))

mutual

def spellNode : Node → String
  | .text s => s
  | .variable name => spellTag (.variable name)
  | .section name inverted children =>
    spellTag (.open name inverted) ++ (spellNodes children ++ spellTag (.close name))
  | .include name => spellTag (.include name)

def spellNodes : List Node → String
  | [] => ""
  | n :: ns => spellNode n ++ spellNodes ns

end

/-- The characters by which a tag is not one of a variable. -/
def sigils : List Char := ['!', '#', '^', '/', '>', '&', '=']

/-- A name that can stand in a tag of any kind. -/
@[mk_iff]
structure PlainName (name : String) : Prop where
  trimmed : trim name = name
  ne_empty : name ≠ ""
  unclosed : '\x7d' ∉ name.toList
  unmarked : ∀ c ∈ name.toList.head?, c ∉ '\x7b' :: sigils

/-- A text in which no tag begins. -/
@[mk_iff]
structure PlainText (s : String) : Prop where
  ne_empty : s ≠ ""
  untagged : ¬ ['\x7b', '\x7b'] <:+: s.toList

/-- Whether a node can stand before others, with a tag behind these if they are `tagged`: a text
stands before no other text, and before a tag it does not end with a brace. -/
def Node.Leads (tagged : Bool) : Node → List Node → Prop
  | .text _, .text _ :: _ => False
  | .text s, [] => tagged = true → s.toList.getLast? ≠ some '\x7b'
  | .text s, _ :: _ => s.toList.getLast? ≠ some '\x7b'
  | _, _ => True

mutual

/-- A node with plain names and texts, each text ending where it was put. -/
def Node.Plain : Node → Prop
  | .text s => PlainText s
  | .variable name => PlainName name
  | .section name _ children => PlainName name ∧ Plain true children
  | .include name => PlainName name

/-- Plain nodes in a row, with a tag behind them if they are `tagged`. -/
def Plain (tagged : Bool) : List Node → Prop
  | [] => True
  | n :: ns => n.Plain ∧ n.Leads tagged ns ∧ Plain tagged ns

end

instance decidablePlainName (name : String) : Decidable (PlainName name) :=
  decidable_of_iff (trim name = name ∧ name ≠ "" ∧ '\x7d' ∉ name.toList ∧
      name.toList.head?.all (fun c => decide (c ∉ '\x7b' :: sigils)) = true) (by
    simp only [plainName_iff, Option.all_eq_true, decide_eq_true_iff, Option.mem_def])

instance decidablePlainText (s : String) : Decidable (PlainText s) :=
  decidable_of_iff _ (plainText_iff s).symm

instance decidableLeads (tagged : Bool) (n : Node) (ns : List Node) :
    Decidable (n.Leads tagged ns) := by
  unfold Node.Leads
  split <;> infer_instance

mutual

instance decidableNodePlain : (n : Node) → Decidable n.Plain
  | .text s => inferInstanceAs (Decidable (PlainText s))
  | .variable name => inferInstanceAs (Decidable (PlainName name))
  | .section name _ children =>
    have := decidablePlain true children
    inferInstanceAs (Decidable (PlainName name ∧ Plain true children))
  | .include name => inferInstanceAs (Decidable (PlainName name))

instance decidablePlain (tagged : Bool) : (ns : List Node) → Decidable (Plain tagged ns)
  | [] => inferInstanceAs (Decidable True)
  | n :: ns =>
    have := decidableNodePlain n
    have := decidablePlain tagged ns
    inferInstanceAs (Decidable (n.Plain ∧ n.Leads tagged ns ∧ Plain tagged ns))

end

def Tag.Plain : Tag → Prop
  | .open name _ => PlainName name
  | .close name => PlainName name
  | .include name => PlainName name
  | .variable name => PlainName name
  | .comment | .delimiters => True

namespace PlainName

theorem trimChars_toList (h : PlainName name) : trimChars name.toList = name.toList := by
  conv_rhs => rw [← h.trimmed, trim, String.toList_ofList]

theorem toList_ne_nil (h : PlainName name) : name.toList ≠ [] :=
  fun hnil => h.ne_empty (String.toList_eq_nil_iff.1 hnil)

theorem ofContent_sigil (h : PlainName name) (kind : String → Tag) {c : Char} (gap : List Char)
    (hc : isBlank c = false) (hgap : ∀ d ∈ gap, isBlank d = true)
    (hkind : ∀ cs, trimChars (c :: cs) = c :: cs →
      Tag.ofContent (c :: cs) = kind (String.ofList (trimChars cs))) :
    Tag.ofContent (c :: (gap ++ name.toList)) = kind name := by
  have htrim : trimChars (c :: (gap ++ name.toList)) = c :: (gap ++ name.toList) :=
    trimChars_cons_append hc gap h.trimChars_toList h.toList_ne_nil
  rw [hkind _ htrim, trimChars_append_of_blank hgap, h.trimChars_toList, String.ofList_toList]

theorem ofContent_toList (h : PlainName name) : Tag.ofContent name.toList = .variable name := by
  have hne {c : Char} {cs : List Char} (heq : name.toList = c :: cs) : c ∉ sigils :=
    fun hc => h.unmarked c (by rw [heq]; rfl) (List.mem_cons_of_mem _ hc)
  rw [Tag.ofContent, h.trimChars_toList]
  split
  case h_8 => rw [String.ofList_toList]
  all_goals
    next heq => exact absurd (by decide) (hne heq)

end PlainName

namespace Tag.Plain

theorem ofContent (h : tag.Plain) : Tag.ofContent tag.content = tag := by
  cases tag with
  | comment | delimiters => decide
  | «open» name inverted =>
    cases inverted with
    | false =>
      exact PlainName.ofContent_sigil h (.open · false) [] (by decide) nofun
        fun cs hcs => by simp only [Tag.ofContent, hcs]
    | true =>
      exact PlainName.ofContent_sigil h (.open · true) [] (by decide) nofun
        fun cs hcs => by simp only [Tag.ofContent, hcs]
  | «close» name =>
    exact PlainName.ofContent_sigil h .close [] (by decide) nofun
      fun cs hcs => by simp only [Tag.ofContent, hcs]
  | «include» name =>
    exact PlainName.ofContent_sigil h .include [' '] (by decide)
      (List.forall_mem_singleton.2 (by decide)) fun cs hcs => by simp only [Tag.ofContent, hcs]
  | «variable» name => exact PlainName.ofContent_toList h

/-- The content of a tag neither closes the tag nor takes a brace from what opens it. -/
theorem content_closed (h : tag.Plain) :
    '\x7d' ∉ tag.content ∧ (tag.content ++ ['\x7d', '\x7d']).head? ≠ some '\x7b' := by
  cases tag with
  | comment | delimiters => decide
  | «open» name inverted => cases inverted <;> simp [content, PlainName.unclosed h]
  | «close» name | «include» name => simp [content, PlainName.unclosed h]
  | «variable» name =>
    refine ⟨PlainName.unclosed h, fun hc => PlainName.unmarked h _ ?_ List.mem_cons_self⟩
    rwa [content, List.head?_append_of_ne_nil _ (PlainName.toList_ne_nil h)] at hc

end Tag.Plain

theorem pieces_spellTag (tag : Tag) (h : tag.Plain) (t : String) :
    pieces (spellTag tag ++ t) = .tag tag :: pieces t := by
  obtain ⟨hclosing, hhead⟩ := h.content_closed
  have hbreak := breakAt_of_not_mem hclosing ['\x7d'] []
  rw [List.append_nil] at hbreak
  have hown : tagSpan (tag.content ++ ['\x7d', '\x7d']) =
      (⟨(spellTag tag).toList, .tag tag⟩, some []) := by
    simp only [tagSpan_of_head hhead, hbreak, spellTag, String.toList_ofList, h.ofContent]
  have htag : Span.IsTag ⟨(spellTag tag).toList, .tag tag⟩ := ⟨_, String.toList_ofList, hown⟩
  rw [pieces, spans, String.toList_append, cut_tag_append htag, List.map_cons, pieces, spans]

def Opens (t : String) : Prop := ['\x7b', '\x7b'] <+: t.toList

/-- What can stand behind a text: nothing or, if it does not end with a brace, a tag. -/
def Ends (s t : String) : Prop := t = "" ∨ s.toList.getLast? ≠ some '\x7b' ∧ Opens t

theorem Opens.append {s : String} (h : Opens s) (t : String) : Opens (s ++ t) := by
  rw [Opens, String.toList_append]
  exact h.trans (List.prefix_append _ _)

theorem opens_spellTag (tag : Tag) : Opens (spellTag tag) := by
  rw [Opens, spellTag, String.toList_ofList]
  exact List.prefix_append _ _

/-- The first piece of what opens a tag is no text. -/
theorem pieces_of_opens {t : String} (h : Opens t) :
    ∃ p ps, pieces t = p :: ps ∧ ∀ u, p ≠ .text u := by
  obtain ⟨after, hafter⟩ := h
  have hpiece := tagSpan_ne_text after
  rw [pieces, spans, ← hafter, cut_eq, cutWith, breakAt_self_append _ _ (List.cons_ne_nil _ _)]
  dsimp only
  cases htag : tagSpan after with
  | mk span rest? =>
    rw [htag] at hpiece
    cases rest? with
    | none | some rest => exact ⟨_, _, rfl, hpiece⟩

/-- A text is read off the front of what can stand behind it. -/
theorem pieces_text (hs : PlainText s) {t : String} (ht : Ends s t) :
    pieces (s ++ t) = .text s :: pieces t := by
  have hne : s.toList ≠ [] := fun hnil => hs.ne_empty (String.toList_eq_nil_iff.1 hnil)
  have hmeets : Meets s.toList t.toList := by
    rintro ⟨hlast, hhead⟩
    obtain rfl | ⟨hlast', -⟩ := ht
    · cases hhead
    · exact hlast' hlast
  rw [pieces, spans, String.toList_append,
    map_cut_text_append hne (breakAt_eq_none hs.untagged) hmeets, String.ofList_toList]
  obtain rfl | ⟨-, hopens⟩ := ht
  · rfl
  · obtain ⟨p, ps, hps, hp⟩ := pieces_of_opens hopens
    rw [pieces, spans] at hps ⊢
    rw [hps, Piece.onto_cons hp]

/-- The text behind nodes: a tag if they are `tagged`, and nothing otherwise. -/
def Behind (tagged : Bool) (t : String) : Prop := if tagged then Opens t else t = ""

theorem opens_spellNode {n : Node} (h : ∀ s, n ≠ .text s) : Opens (spellNode n) := by
  cases n with
  | text s => exact absurd rfl (h s)
  | «variable» name | «include» name => exact opens_spellTag _
  | «section» name inverted children => exact (opens_spellTag _).append _

theorem ends_of_leads {tagged : Bool} {ns : List Node} {t : String}
    (h : Node.Leads tagged (.text s) ns) (ht : Behind tagged t) : Ends s (spellNodes ns ++ t) := by
  cases ns with
  | nil =>
    rw [spellNodes, String.empty_append]
    cases tagged with
    | false => exact .inl ht
    | true => exact .inr ⟨h rfl, ht⟩
  | cons n ns =>
    rw [spellNodes, String.append_assoc]
    cases n with
    | text _ => exact h.elim
    | «variable» | «include» | «section» =>
      exact .inr ⟨h, (opens_spellNode (by nofun)).append _⟩

mutual

/-- The spelling of a node adds the node to what is gathered. -/
theorem build_spellNode {n : Node} (h : n.Plain) {t : String} (ht : ∀ s, n = .text s → Ends s t)
    (opened : List OpenSection) (current : List Node) :
    build opened current (pieces (spellNode n ++ t)) = build opened (n :: current) (pieces t) := by
  match n, h, ht with
  | .text s, h, ht => rw [spellNode, pieces_text h (ht s rfl), build]
  | .variable name, h, _ =>
    rw [spellNode, pieces_spellTag (.variable name) h, build, if_neg (PlainName.ne_empty h)]
  | .section name inverted children, h, _ =>
    rw [spellNode, String.append_assoc, String.append_assoc,
      pieces_spellTag (.open name inverted) h.1, build,
      build_spellNodes h.2 ((opens_spellTag _).append _),
      pieces_spellTag (.close name) h.1, build, if_pos rfl, List.append_nil,
      List.reverse_reverse]
  | .include name, h, _ => rw [spellNode, pieces_spellTag (.include name) h, build]

theorem build_spellNodes {tagged : Bool} {ns : List Node} (h : Plain tagged ns) {t : String}
    (ht : Behind tagged t) (opened : List OpenSection) (current : List Node) :
    build opened current (pieces (spellNodes ns ++ t)) =
      build opened (ns.reverse ++ current) (pieces t) := by
  match ns, h with
  | [], _ => rw [spellNodes, String.empty_append, List.reverse_nil, List.nil_append]
  | n :: ns, ⟨hn, hleads, hns⟩ =>
    have hends : ∀ s, n = .text s → Ends s (spellNodes ns ++ t) := by
      rintro s rfl
      exact ends_of_leads hleads ht
    rw [spellNodes, String.append_assoc, build_spellNode hn hends, build_spellNodes hns ht,
      List.reverse_cons, List.append_assoc, List.singleton_append]

end

/-- A plain tree is read from its spelling. -/
theorem parse_spellNodes {nodes : List Node} (h : Plain false nodes) :
    parse (spellNodes nodes) = .ok nodes := by
  have hbuild := build_spellNodes h (t := "") rfl [] []
  rw [String.append_empty, List.append_nil] at hbuild
  rw [parse, hbuild]
  exact congrArg Except.ok (List.reverse_reverse nodes)

def notice : List Node :=
  [.text "To ", .section "copies" false [.variable "name", .text ", ",
    .section "address" true [.include "unknown"]], .text " \x7b"]

theorem parse_notice :
    Plain false notice ∧
      parse ("To \x7b\x7b#copies\x7d\x7d\x7b\x7bname\x7d\x7d, \x7b\x7b^address\x7d\x7d" ++
        "\x7b\x7b> unknown\x7d\x7d\x7b\x7b/address\x7d\x7d\x7b\x7b/copies\x7d\x7d \x7b") =
          .ok notice := by
  have hplain : Plain false notice := by decide +kernel
  exact ⟨hplain, parse_spellNodes hplain⟩

end Caseflow.Template
