import Packrat.Proofs.Grammar.Workshop

/-!
# Proofs — Grammar — Crafts

Programs that build matchers work in a workshop.  A program *crafts* its result there if a reachable
workshop comes out in which everything is known that was known before; the draft and the grammars
are as they were.  Every call of a builder with known matchers crafts a known one (`crafts_call`),
and programs one after the other craft what the last one does (`crafts_bind`).
-/

namespace Packrat

namespace Workshop

/-- The second workshop came out of the first by building matchers. -/
structure Extends (w w' : Workshop) : Prop where
  reachable : w'.Reachable
  known : ∀ m, w.Known m → w'.Known m
  draft : w'.draft = w.draft
  grammars : w'.grammars = w.grammars

variable {w w' w'' : Workshop}

theorem Extends.trans (h : w.Extends w') (h' : w'.Extends w'') : w.Extends w'' where
  reachable := h'.reachable
  known := fun m hm => h'.known m (h.known m hm)
  draft := h'.draft.trans h.draft
  grammars := h'.grammars.trans h.grammars

/-- What is known stays so with more matchers made. -/
theorem Known.mono {m : Matcher} (h : w.Known m) (hmade : ∀ m ∈ w.made, m ∈ w'.made)
    (hdraft : w'.draft = w.draft) (hgrammars : w'.grammars = w.grammars) : w'.Known m := by
  induction h with
  | made h => exact .made (hmade _ h)
  | drafted h => exact .drafted (hdraft ▸ h)
  | root hg => exact .root (hgrammars ▸ hg)
  | body hg h => exact .body (hgrammars ▸ hg) h
  | part _ hp ih => exact .part ih hp

end Workshop

open Workshop

/-- In the workshop `w`, the program crafts a result of which `Q` holds with the workshop that comes
out. -/
def Crafts {α : Type} (w : Workshop) (x : Build α) (Q : Workshop → α → Prop) : Prop :=
  ∃ w', w.Extends w' ∧ w'.next = (x.runFrom w.next).2 ∧
    ∀ a, (x.runFrom w.next).1 = .ok a → Q w' a

variable {w : Workshop} {α β : Type}

theorem crafts_bind {x : Build α} {f : α → Build β} {P : Workshop → α → Prop}
    {Q : Workshop → β → Prop} (hx : Crafts w x P)
    (hf : ∀ w' a, w.Extends w' → P w' a → Crafts w' (f a) Q) : Crafts w (x >>= f) Q := by
  obtain ⟨w', hw', hnext, hP⟩ := hx
  simp only [Crafts]
  rw [runFrom_bind]
  generalize x.runFrom w.next = e at hnext hP
  rcases e with ⟨e | a, n⟩
  · exact ⟨w', hw', hnext, fun _ h => by cases h⟩
  · obtain ⟨w'', hw'', hnext', hQ⟩ := hf w' a hw' (hP a rfl)
    cases hnext
    exact ⟨w'', hw'.trans hw'', hnext', hQ⟩

/-- A call of a builder makes a matcher that is known from then on. -/
theorem crafts_call (hw : w.Reachable) (c : BuilderCall) (hc : ∀ m ∈ c.uses, w.Known m) :
    Crafts w c.build Known := by
  have hcalled := hw.called c hc
  simp only [Workshop.called] at hcalled
  simp only [Crafts]
  generalize c.build.runFrom w.next = e at hcalled
  rcases e with ⟨e | m, n⟩
  · have hw' : w.Extends { w with next := n } :=
      ⟨hcalled, fun _ hm => hm.mono (fun _ => id) rfl rfl, rfl, rfl⟩
    exact ⟨_, hw', rfl, fun _ h => by cases h⟩
  · have hw' : w.Extends { w with next := n, made := m :: w.made } :=
      ⟨hcalled, fun _ hm => hm.mono (fun _ => List.mem_cons_of_mem _) rfl rfl, rfl, rfl⟩
    exact ⟨_, hw', rfl, fun _ h => by cases h; exact .made List.mem_cons_self⟩

/-- A call of a builder and then a program that gets the matcher. -/
theorem crafts_call_bind (hw : w.Reachable) (c : BuilderCall) (hc : ∀ m ∈ c.uses, w.Known m)
    {f : Matcher → Build α} {Q : Workshop → α → Prop}
    (hf : ∀ w' m, w.Extends w' → w'.Known m → Crafts w' (f m) Q) :
    Crafts w (c.build >>= f) Q :=
  crafts_bind (crafts_call hw c hc) hf

end Packrat
