import Mathlib.Data.List.Forall2
import Packrat.Node.Render
import Packrat.Proofs.Text.Lines
import Packrat.Proofs.Text.Quoted
import Packrat.Text.Blank

/-!
# Proofs — Node — Display

What can be told of a tree from its text.  A line shows of its node the name, or that the node is a
group, and the text and the place of its token if there is one (`Shown`).  Two trees are alike if
they have a node at the same places and these show the same (`Alike`).

**Lines** (`Shown.line_inj`): where names are plain, a line says at which level it stands and what
is shown on it.  The text of a token is quoted, so no part of it is taken for the place of the
token or for the end of the line.  **Outlines** (`outlineList_append_inj`): what is shown of the
nodes of a forest, with the level of each, tells which node is whose child, since what is below a
node ends where the next line stands less deep.

**Display** (`render_eq_iff`): so trees with plain names are written as the same text if and only if
they are alike.
-/

namespace Packrat

/-- The name is one word, and not what is shown of a group. -/
structure PlainName (name : String) : Prop where
  ne_empty : name ≠ ""
  ne_group : name ≠ "<synthetic>"
  not_blank : ∀ c ∈ name.toList, isBlank c = false

instance (name : String) : Decidable (PlainName name) :=
  decidable_of_iff
    (name ≠ "" ∧ name ≠ "<synthetic>" ∧ name.toList.all (fun c => !isBlank c) = true)
    ⟨fun h => ⟨h.1, h.2.1, by simpa using h.2.2⟩,
      fun h => ⟨h.ne_empty, h.ne_group, by simpa using h.not_blank⟩⟩

/-- What is shown of a node: the name of its kind, unless it is a group, and its token. -/
@[ext]
structure Shown where
  name : Option String
  token : Option (String × Caret)
  deriving DecidableEq

/-! ### Numbers and carets -/

theorem toString_toList_inj {m n : Nat} (h : (toString m).toList = (toString n).toList) :
    m = n := by
  have hvalue := congrArg (fun ds => Nat.ofDigitChars 10 ds 0) h
  simpa [Nat.toString_eq_ofList_toDigits] using hvalue

theorem Caret.toList_render_inj {a b : Caret} (h : a.render.toList = b.render.toList) : a = b := by
  have hcolon : ∀ n : Nat, ':' ∉ (toString n).toList := not_mem_digits rfl
  rw [Caret.toList_render, Caret.toList_render] at h
  obtain ⟨hline, hcolumn⟩ := (append_cons_inj (hcolon _) (hcolon _)).mp h
  cases a
  cases b
  exact congr (congrArg Caret.mk (toString_toList_inj hline)) (toString_toList_inj hcolumn)

/-! ### Lines -/

/-- How often something stands first is known if something else comes next. -/
theorem replicate_append_inj {α : Type} {x : α} {m n : Nat} {as bs : List α}
    (ha : as.head? ≠ some x) (hb : bs.head? ≠ some x)
    (h : List.replicate m x ++ as = List.replicate n x ++ bs) : m = n ∧ as = bs := by
  induction m generalizing n with
  | zero =>
      cases n with
      | zero => exact ⟨rfl, h⟩
      | succ n =>
          rw [List.replicate_zero, List.nil_append, List.replicate_succ, List.cons_append] at h
          exact absurd (congrArg List.head? h) ha
  | succ m ih =>
      cases n with
      | zero =>
          rw [List.replicate_zero, List.nil_append, List.replicate_succ, List.cons_append] at h
          exact absurd (congrArg List.head? h.symm) hb
      | succ n =>
          rw [List.replicate_succ, List.replicate_succ, List.cons_append, List.cons_append] at h
          obtain ⟨hmn, has⟩ := ih (List.cons_eq_cons.mp h).2
          exact ⟨congrArg Nat.succ hmn, has⟩

namespace Shown

variable {s s' : Shown} {level level' : Nat}

/-- What stands on the line for the name. -/
def title (s : Shown) : List Char :=
  (s.name.getD "<synthetic>").toList

/-- What stands on the line for a token, behind a space. -/
def mark (t : String × Caret) : List Char :=
  Quoted.encode t.1.toList ++ ' ' :: '@' :: ' ' :: t.2.render.toList

/-- The line behind its indentation. -/
def label (s : Shown) : List Char :=
  s.title ++ (s.token.map fun t => ' ' :: mark t).getD []

def line (level : Nat) (s : Shown) : List Char :=
  List.replicate (2 * level) ' ' ++ s.label

/-- The name is plain, if there is one. -/
def Plain (s : Shown) : Prop :=
  ∀ name ∈ s.name, PlainName name

theorem Plain.title_not_blank (h : s.Plain) : ∀ c ∈ s.title, isBlank c = false := by
  cases hname : s.name with
  | none =>
      have hgroup : "<synthetic>".toList.all (fun c => !isBlank c) = true := by decide
      have htitle : s.title = "<synthetic>".toList := by rw [title, hname, Option.getD_none]
      simpa [htitle] using hgroup
  | some name =>
      have htitle : s.title = name.toList := by rw [title, hname, Option.getD_some]
      exact htitle ▸ (h name hname).not_blank

theorem Plain.not_mem_title (h : s.Plain) {c : Char} (hc : isBlank c = true) : c ∉ s.title :=
  fun hmem => absurd (h.title_not_blank c hmem) (by simp [hc])

theorem Plain.title_ne_nil (h : s.Plain) : s.title ≠ [] := by
  rw [title, ne_eq, String.toList_eq_nil_iff]
  cases hname : s.name with
  | none => decide
  | some name => exact (h name hname).ne_empty

/-- No name is what is shown of a group. -/
theorem Plain.name_eq (h : s.Plain) (h' : s'.Plain) (heq : s.title = s'.title) :
    s.name = s'.name := by
  have hname := String.toList_inj.mp heq
  cases hs : s.name with
  | none =>
      cases hs' : s'.name with
      | none => rfl
      | some name =>
          rw [hs, hs', Option.getD_none, Option.getD_some] at hname
          exact absurd hname.symm (h' name hs').ne_group
  | some name =>
      cases hs' : s'.name with
      | none =>
          rw [hs, hs', Option.getD_none, Option.getD_some] at hname
          exact absurd hname (h name hs).ne_group
      | some name' => simpa [hs, hs'] using hname

theorem mark_inj {t t' : String × Caret} (h : mark t = mark t') : t = t' := by
  obtain ⟨htext, hrest⟩ := Quoted.encode_append_inj.mp h
  simp only [List.cons.injEq, true_and] at hrest
  exact Prod.ext (String.toList_inj.mp htext) (Caret.toList_render_inj hrest)

theorem feed_not_mem_mark (t : String × Caret) : '\n' ∉ mark t := by
  simp only [mark, List.mem_append, List.mem_cons, not_or]
  refine ⟨fun h => ?_, by decide, by decide, by decide, Caret.not_mem_render rfl (by decide) t.2⟩
  exact absurd (Quoted.isPrintable_of_mem_encode h) (by decide)

theorem label_of_token_none (h : s.token = none) : s.label = s.title := by
  rw [label, h, Option.map_none, Option.getD_none, List.append_nil]

theorem label_of_token_some {t : String × Caret} (h : s.token = some t) :
    s.label = s.title ++ ' ' :: mark t := by
  rw [label, h, Option.map_some, Option.getD_some]

/-- The first space on the line behind its indentation ends the name. -/
theorem Plain.label_inj (h : s.Plain) (h' : s'.Plain) (heq : s.label = s'.label) : s = s' := by
  have hspace : ' ' ∉ s.title := h.not_mem_title (by decide)
  have hspace' : ' ' ∉ s'.title := h'.not_mem_title (by decide)
  cases ht : s.token with
  | none =>
      cases ht' : s'.token with
      | none =>
          rw [label_of_token_none ht, label_of_token_none ht'] at heq
          exact Shown.ext (h.name_eq h' heq) (ht.trans ht'.symm)
      | some t' =>
          rw [label_of_token_none ht, label_of_token_some ht'] at heq
          exact absurd (heq ▸ List.mem_append_right _ List.mem_cons_self) hspace
  | some t =>
      cases ht' : s'.token with
      | none =>
          rw [label_of_token_some ht, label_of_token_none ht'] at heq
          exact absurd (heq ▸ List.mem_append_right _ List.mem_cons_self) hspace'
      | some t' =>
          rw [label_of_token_some ht, label_of_token_some ht'] at heq
          obtain ⟨htitle, hmark⟩ := (append_cons_inj hspace hspace').mp heq
          exact Shown.ext (h.name_eq h' htitle)
            (ht.trans ((congrArg some (mark_inj hmark)).trans ht'.symm))

theorem Plain.head?_label_ne (h : s.Plain) : s.label.head? ≠ some ' ' := by
  rw [label, List.head?_append_of_ne_nil _ h.title_ne_nil]
  exact fun hhead => h.not_mem_title (by decide) (List.mem_of_head? hhead)

theorem Plain.feed_not_mem_line (h : s.Plain) : '\n' ∉ s.line level := by
  simp only [line, label, List.mem_append, not_or]
  refine ⟨fun hmem => absurd (List.eq_of_mem_replicate hmem) (by decide),
    h.not_mem_title (by decide), ?_⟩
  cases s.token with
  | none => exact List.not_mem_nil
  | some t => exact List.not_mem_cons_of_ne_of_not_mem (by decide) (feed_not_mem_mark t)

/-- **Lines.**  The indentation ends at the first character that is no space, which is one of the
title. -/
theorem line_inj (h : s.Plain) (h' : s'.Plain) (heq : s.line level = s'.line level') :
    level = level' ∧ s = s' := by
  obtain ⟨hlevel, hlabel⟩ := replicate_append_inj h.head?_label_ne h'.head?_label_ne heq
  exact ⟨Nat.eq_of_mul_eq_mul_left (by decide) hlevel, h.label_inj h' hlabel⟩

end Shown

namespace Node

/-- What is shown of the node. -/
def shown (n : Node) : Shown :=
  ⟨n.kind.map (·.name), n.token.map fun t => (t.text, t.caret)⟩

/-- All names in the tree are plain. -/
def PlainlyNamed (n : Node) : Prop :=
  ∀ m ∈ n.preorder, ∀ kind ∈ m.kind, PlainName kind.name

instance (n : Node) : Decidable n.PlainlyNamed :=
  inferInstanceAs (Decidable (∀ m ∈ n.preorder, ∀ kind ∈ m.kind, PlainName kind.name))

/-- There are nodes at the same places in both trees, and the same is shown of them. -/
def Alike (a b : Node) : Prop :=
  ∀ path, (a.at? path).map shown = (b.at? path).map shown

variable {a b : Node} {level : Nat}

/-! ### Outlines -/

mutual

/-- What is shown of the nodes of a tree whose root stands at the given level, with the level of
each. -/
def outline (level : Nat) : Node → List (Nat × Shown)
  | ⟨k, t, cs⟩ => (level, shown ⟨k, t, cs⟩) :: outlineList (level + 1) cs

def outlineList (level : Nat) : List Node → List (Nat × Shown)
  | [] => []
  | n :: r => n.outline level ++ outlineList level r

end

mutual

theorem map_snd_outline (level : Nat) : ∀ n : Node,
    (n.outline level).map Prod.snd = n.preorder.map shown
  | ⟨k, t, cs⟩ => by
    rw [outline, preorder, List.map_cons, List.map_cons, map_snd_outlineList (level + 1) cs]

theorem map_snd_outlineList (level : Nat) : ∀ ns : List Node,
    (outlineList level ns).map Prod.snd = (preorderList ns).map shown
  | [] => rfl
  | n :: r => by
    rw [outlineList, preorderList, List.map_append, List.map_append, map_snd_outline level n,
      map_snd_outlineList level r]

end

theorem PlainlyNamed.plain_of_mem_outline (h : a.PlainlyNamed) {p : Nat × Shown}
    (hp : p ∈ a.outline level) : p.2.Plain := by
  have hmem : p.2 ∈ a.preorder.map shown := map_snd_outline level a ▸ List.mem_map_of_mem hp
  obtain ⟨m, hm, hshown⟩ := List.mem_map.mp hmem
  intro name hname
  rw [← hshown] at hname
  obtain ⟨kind, hkind, rfl⟩ := Option.map_eq_some_iff.mp hname
  exact h m hm kind hkind

/-- The line of a node. -/
theorem toList_line (level : Nat) (k : Option NodeKind) (t : Option Token) (cs : List Node) :
    (String.ofList (List.replicate (2 * level) ' ') ++ (⟨k, t, cs⟩ : Node).kindName ++
      (t.map (·.mark)).getD "").toList = (shown ⟨k, t, cs⟩).line level := by
  have hmark : ∀ t : Token, t.mark.toList = ' ' :: Shown.mark (t.text, t.caret) := fun t => by
    simp [Token.mark, Shown.mark, quoted]
  cases k <;> cases t <;> simp [Shown.line, Shown.label, Shown.title, shown, kindName, hmark]

mutual

theorem map_toList_linesAt (level : Nat) : ∀ n : Node,
    (n.linesAt level).map String.toList = (n.outline level).map fun p => p.2.line p.1
  | ⟨k, t, cs⟩ => by
    rw [linesAt, outline, List.map_cons, List.map_cons, toList_line,
      map_toList_linesListAt (level + 1) cs]

theorem map_toList_linesListAt (level : Nat) : ∀ ns : List Node,
    (linesListAt level ns).map String.toList = (outlineList level ns).map fun p => p.2.line p.1
  | [] => rfl
  | n :: r => by
    rw [linesListAt, outlineList, List.map_append, List.map_append, map_toList_linesAt level n,
      map_toList_linesListAt level r]

end

theorem toList_render (n : Node) :
    n.render.toList = joinLines ((n.outline 0).map fun p => p.2.line p.1) := by
  rw [← map_toList_linesAt, render, joinLines, String.toList_join, List.flatMap_map,
    List.flatMap_map]
  simp

/-! ### Places -/

theorem at?_cons (n : Node) (i : Nat) (path : List Nat) :
    n.at? (i :: path) = (n.children[i]?).bind (·.at? path) := rfl

/-- Trees are alike if their roots show the same and their children are alike. -/
theorem alike_iff : a.Alike b ↔ a.shown = b.shown ∧ List.Forall₂ Alike a.children b.children := by
  constructor
  · intro h
    refine ⟨Option.some_inj.mp (h []), ?_⟩
    have hchild : ∀ (i : Nat) (path : List Nat),
        ((a.children[i]?).bind (·.at? path)).map shown =
          ((b.children[i]?).bind (·.at? path)).map shown := fun i path => h (i :: path)
    have hshown : a.children.map shown = b.children.map shown :=
      List.ext_getElem? fun i => by
        simpa [at?] using hchild i []
    have hlength : a.children.length = b.children.length := by
      simpa using congrArg List.length hshown
    refine List.forall₂_iff_get.mpr ⟨hlength, fun i hi hi' path => ?_⟩
    simpa [hi, hi'] using hchild i path
  · rintro ⟨hshown, hchildren⟩ path
    cases path with
    | nil => exact congrArg some hshown
    | cons i path =>
        obtain ⟨hlength, hget⟩ := List.forall₂_iff_get.mp hchildren
        rw [at?_cons, at?_cons]
        by_cases hi : i < a.children.length
        · have hi' : i < b.children.length := hlength ▸ hi
          simpa [hi, hi'] using hget i hi hi' path
        · have hi' : ¬ i < b.children.length := hlength ▸ hi
          simp [Nat.not_lt.mp hi, Nat.not_lt.mp hi']

/-- What comes next stands less deep. -/
def Shallower (level : Nat) (xs : List (Nat × Shown)) : Prop :=
  ∀ p, xs.head? = some p → p.1 < level

theorem outlineList_cons (level : Nat) (n : Node) (r : List Node) :
    outlineList level (n :: r) =
      (level, n.shown) :: (outlineList (level + 1) n.children ++ outlineList level r) := by
  cases n
  rfl

/-- A node at the level is no node that stands less deep. -/
theorem not_shallower_cons (level : Nat) (n : Node) (r : List Node) (xs : List (Nat × Shown)) :
    ¬ Shallower level (outlineList level (n :: r) ++ xs) := fun h =>
  Nat.lt_irrefl level (h (level, n.shown) (by rw [outlineList_cons]; rfl))

theorem shallower_append (ns : List Node) {xs : List (Nat × Shown)} (h : Shallower level xs) :
    Shallower (level + 1) (outlineList level ns ++ xs) := by
  intro p hp
  cases ns with
  | nil => exact Nat.lt_succ_of_lt (h p hp)
  | cons n r =>
      rw [outlineList_cons] at hp
      cases hp
      exact Nat.lt_succ_self level

/-- **Outlines.**  What is listed up to a line that stands less deep is a forest, and only one
forest is listed so. -/
theorem outlineList_append_inj : ∀ {level : Nat} {ns ms : List Node} {xs ys : List (Nat × Shown)},
    Shallower level xs → Shallower level ys →
      outlineList level ns ++ xs = outlineList level ms ++ ys →
        List.Forall₂ Alike ns ms ∧ xs = ys
  | _, [], [], _, _, _, _, h => ⟨.nil, h⟩
  | level, [], m :: ms, xs, ys, hx, _, h =>
    absurd (h ▸ hx : Shallower level (outlineList level (m :: ms) ++ ys))
      (not_shallower_cons level m ms ys)
  | level, n :: ns, [], xs, ys, _, hy, h =>
    absurd (h.symm ▸ hy : Shallower level (outlineList level (n :: ns) ++ xs))
      (not_shallower_cons level n ns xs)
  | level, ⟨k, t, cs⟩ :: ns, m :: ms, xs, ys, hx, hy, h => by
    rw [outlineList_cons, outlineList_cons, List.cons_append, List.cons_append,
      List.append_assoc, List.append_assoc] at h
    obtain ⟨hroot, hrest⟩ := List.cons_eq_cons.mp h
    -- what is below the first root, one level deeper, ends where its next sibling or `xs` starts
    obtain ⟨hchildren, hrest⟩ :=
      outlineList_append_inj (shallower_append ns hx) (shallower_append ms hy) hrest
    obtain ⟨hnext, hxs⟩ := outlineList_append_inj hx hy hrest
    exact ⟨.cons (alike_iff.mpr ⟨congrArg Prod.snd hroot, hchildren⟩) hnext, hxs⟩

mutual

theorem Alike.outline_eq (level : Nat) : ∀ {a b : Node}, a.Alike b →
    a.outline level = b.outline level
  | ⟨k, t, cs⟩, ⟨k', t', cs'⟩, h => by
    obtain ⟨hshown, hchildren⟩ := alike_iff.mp h
    rw [outline, outline, hshown, outlineList_eq (level + 1) hchildren]

theorem outlineList_eq (level : Nat) : ∀ {ns ms : List Node}, List.Forall₂ Alike ns ms →
    outlineList level ns = outlineList level ms
  | [], [], _ => rfl
  | n :: ns, m :: ms, h => by
    obtain ⟨hhead, htail⟩ := List.forall₂_cons.mp h
    rw [outlineList, outlineList, hhead.outline_eq level, outlineList_eq level htail]

end

/-- An outline can be read from its lines. -/
theorem map_line_inj {ps qs : List (Nat × Shown)} (hp : ∀ p ∈ ps, p.2.Plain)
    (hq : ∀ q ∈ qs, q.2.Plain)
    (h : ps.map (fun p => p.2.line p.1) = qs.map fun q => q.2.line q.1) : ps = qs := by
  induction ps generalizing qs with
  | nil => exact (List.map_eq_nil_iff.mp h.symm).symm
  | cons p ps ih =>
      cases qs with
      | nil => exact absurd h (List.cons_ne_nil _ _)
      | cons q qs =>
          obtain ⟨hp, hps⟩ := List.forall_mem_cons.mp hp
          obtain ⟨hq, hqs⟩ := List.forall_mem_cons.mp hq
          obtain ⟨hline, hlines⟩ := List.cons_eq_cons.mp h
          obtain ⟨hlevel, hshown⟩ := Shown.line_inj hp hq hline
          exact List.cons_eq_cons.mpr ⟨Prod.ext hlevel hshown, ih hps hqs hlines⟩

/-! ### Display -/

/-- **Display.**  Trees with plain names are written as the same text if and only if they have the
same shape, and the same names, token texts and carets at the same places. -/
theorem render_eq_iff (ha : a.PlainlyNamed) (hb : b.PlainlyNamed) :
    a.render = b.render ↔ a.Alike b := by
  have hplain : ∀ p ∈ a.outline 0, p.2.Plain := fun p => ha.plain_of_mem_outline
  have hplain' : ∀ p ∈ b.outline 0, p.2.Plain := fun p => hb.plain_of_mem_outline
  have hfeed : ∀ {ps : List (Nat × Shown)}, (∀ p ∈ ps, p.2.Plain) →
      ∀ line ∈ ps.map fun p => p.2.line p.1, '\n' ∉ line := fun hps =>
    List.forall_mem_map.mpr fun p hp => (hps p hp).feed_not_mem_line
  rw [← String.toList_inj, toList_render, toList_render]
  constructor
  · intro h
    have houtline := map_line_inj hplain hplain' (joinLines_inj (hfeed hplain) (hfeed hplain') h)
    have hforest : outlineList 0 [a] ++ [] = outlineList 0 [b] ++ [] := by
      simp [outlineList, houtline]
    have hnone : Shallower 0 [] := fun p hp => absurd hp (by simp)
    obtain ⟨hroots, -⟩ := outlineList_append_inj hnone hnone hforest
    exact (List.forall₂_cons.mp hroots).1
  · intro h
    rw [h.outline_eq 0]

/-- A number on the first line. -/
def numberAt (text : String) (column : Nat) : Node :=
  .leaf (.ofText ⟨"NUMBER"⟩ text ⟨1, column⟩)

/-- A token whose text reads like the end of its line and the line of another token is not taken for
two tokens. -/
theorem forged_line_told_apart :
    (build (.rule "pair") none [numberAt "1" 1, numberAt "2" 3]).PlainlyNamed ∧
      (build (.rule "pair") none [numberAt "1\" @ 1:1\n  NUMBER \"2" 3]).PlainlyNamed ∧
      (build (.rule "pair") none [numberAt "1" 1, numberAt "2" 3]).render ≠
        (build (.rule "pair") none [numberAt "1\" @ 1:1\n  NUMBER \"2" 3]).render := by
  refine ⟨by decide, by decide, fun h => ?_⟩
  exact absurd ((render_eq_iff (by decide) (by decide)).mp h [1]) (by decide)

end Node

end Packrat
