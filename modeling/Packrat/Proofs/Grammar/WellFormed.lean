import Packrat.Proofs.Grammar.Inputs
import Packrat.Proofs.Grammar.Matchers

/-!
# Proofs — Grammar — Well formed

The matchers that builders make.  A shape is *sound* if a sequence or a choice has two parts at
least, since a single one is passed through as it is, and a literal has a text.  Builders give sound
shapes to new matchers, and numbers from the next one on.  So a property that all such matchers have
(`HoldsOfNew`) holds throughout what an input becomes if it does throughout what the input uses
(`Becomes.throughout`), and a step of a workshop keeps it (`Step.throughout`).

**Well formed** (`known_well_formed`): in a reachable workshop all shapes are sound, and numbers
tell matchers apart and say which was made first.  A matcher was made after everything inside of it,
so it is not inside of itself.
-/

namespace Packrat

/-- A sequence or a choice has two parts at least, and a literal has a text. -/
def Shape.Sound {M : Type} : Shape M → Prop
  | sequence ms | firstOf ms => 2 ≤ ms.length
  | literal text => text ≠ ""
  | pattern _ | ofKind _ | optional _ | oneOrMore _ | zeroOrMore _ | next _ | nextNot _
  | endOfInput | nothing | token _ _ | trivia _ _ | adjacent _ | rule _ => True

/-- The property holds of all matchers with sound shapes and numbers from `n` on. -/
def HoldsOfNew (Q : Matcher → Prop) (n : Nat) : Prop :=
  ∀ {k shape}, n ≤ k → shape.Sound → Q ⟨k, shape⟩

variable {Q : Matcher → Prop} {n n' : Nat} {m m' : Matcher} {shape : Shape Matcher}

theorem HoldsOfNew.succ (hQ : HoldsOfNew Q n) : HoldsOfNew Q (n + 1) :=
  fun hk => hQ (Nat.le_of_succ_le hk)

namespace Matcher

/-- The property holds of the matcher and of everything inside of it. -/
def Throughout (Q : Matcher → Prop) (m : Matcher) : Prop :=
  ∀ m' ∈ m.inside, Q m'

theorem throughout_iff : m.Throughout Q ↔ Q m ∧ ∀ p ∈ m.parts, p.Throughout Q := by
  constructor
  · exact fun h => ⟨h m (mem_inside_self m), fun p hp m' hm' =>
      h m' (mem_inside_iff.mpr (.inr ⟨p, hp, hm'⟩))⟩
  · rintro ⟨hm, hparts⟩ m' hm'
    rcases mem_inside_iff.mp hm' with rfl | ⟨p, hp, hm'⟩
    · exact hm
    · exact hparts p hp m' hm'

/-- A new matcher. -/
theorem throughout_new (hQ : HoldsOfNew Q n) (hshape : shape.Sound)
    (hparts : ∀ p ∈ shape.parts, p.Throughout Q) : Throughout Q ⟨n, shape⟩ :=
  throughout_iff.mpr ⟨hQ (Nat.le_refl n) hshape, hparts⟩

/-- A new matcher without parts. -/
theorem throughout_leaf (hQ : HoldsOfNew Q n) (hshape : shape.Sound) (hparts : shape.parts = []) :
    Throughout Q ⟨n, shape⟩ :=
  throughout_new hQ hshape (hparts ▸ List.forall_mem_nil _)

end Matcher

/-! ### Inputs -/

namespace Input

theorem sound_char (c : Char) : (Shape.literal (M := Matcher) c.toString).Sound := by
  intro h
  simpa using congrArg String.toList h

mutual

/-- What holds of new matchers holds throughout what an input becomes. -/
theorem Becomes.throughout {n n' : Nat} {m : Matcher} : ∀ {i : Input}, Becomes n i m n' →
    HoldsOfNew Q n → (∀ u ∈ i.uses, u.Throughout Q) → m.Throughout Q ∧ HoldsOfNew Q n'
  | _, .matcher m, hQ, hi => ⟨hi m (List.mem_singleton_self m), hQ⟩
  | _, .text hs, hQ, _ => ⟨Matcher.throughout_leaf hQ hs rfl, hQ.succ⟩
  | _, .char c, hQ, _ => ⟨Matcher.throughout_leaf hQ (sound_char c) rfl, hQ.succ⟩
  | _, .tokenKind _, hQ, _ | _, .token _, hQ, _ | _, .rule _, hQ, _ =>
      ⟨Matcher.throughout_leaf hQ trivial rfl, hQ.succ⟩
  | _, .one h, hQ, hi => h.throughout hQ fun u hu => hi u (List.mem_append_left _ hu)
  | .many _, .many hlen hs, hQ, hi => by
      obtain ⟨hms, hQ'⟩ := hs.throughout hQ hi
      exact ⟨Matcher.throughout_new hQ' (hlen.trans_eq hs.length_eq.symm) hms, hQ'.succ⟩

theorem BecomeAll.throughout {n n' : Nat} {ms : List Matcher} : ∀ {is : List Input},
    BecomeAll n is ms n' → HoldsOfNew Q n → (∀ u ∈ usesAll is, u.Throughout Q) →
    (∀ m ∈ ms, m.Throughout Q) ∧ HoldsOfNew Q n'
  | _, .nil, hQ, _ => ⟨List.forall_mem_nil _, hQ⟩
  | _, .cons h hs, hQ, hi => by
      obtain ⟨hm, hQ'⟩ := h.throughout hQ fun u hu => hi u (List.mem_append_left _ hu)
      obtain ⟨hms, hQ''⟩ := hs.throughout hQ' fun u hu => hi u (List.mem_append_right _ hu)
      exact ⟨List.forall_mem_cons.mpr ⟨hm, hms⟩, hQ''⟩

end

end Input

/-! ### Calls -/

namespace BuilderCall

variable {c : BuilderCall}

theorem of_around? {i : Input} {shape : Matcher → Shape Matcher}
    (hc : c.around? = some (i, shape)) :
    c.uses = i.uses ∧ ∀ m, (shape m).Sound ∧ (shape m).parts = [m] := by
  cases c with
  | token kind i =>
      cases kind with
      | token k => cases hc; exact ⟨rfl, fun _ => ⟨trivial, rfl⟩⟩
      | rule name => cases hc
  | optional | oneOrMore | zeroOrMore | next | nextNot | commentTrivia | skippedTrivia
  | adjacent => cases hc; exact ⟨rfl, fun _ => ⟨trivial, rfl⟩⟩
  | sequence | firstOf | literal | regexp | endOfInput | nothing | rule => cases hc

/-- What holds of new matchers holds throughout what a builder makes of its inputs. -/
theorem Returns.throughout (h : c.Returns n m n') (hQ : HoldsOfNew Q n)
    (hc : ∀ u ∈ c.uses, u.Throughout Q) : m.Throughout Q ∧ HoldsOfNew Q n' := by
  cases h with
  | one h | oneChoice h => exact h.throughout hQ fun u hu => hc u (List.mem_append_left _ hu)
  | sequence hlen hs | firstOf hlen hs =>
      obtain ⟨hms, hQ'⟩ := hs.throughout hQ hc
      exact ⟨Matcher.throughout_new hQ' (hlen.trans_eq hs.length_eq.symm) hms, hQ'.succ⟩
  | around ha h =>
      obtain ⟨huses, hshape⟩ := of_around? ha
      obtain ⟨hm, hQ'⟩ := h.throughout hQ (huses ▸ hc)
      refine ⟨Matcher.throughout_new hQ' (hshape _).1 ?_, hQ'.succ⟩
      rw [(hshape _).2]
      exact List.forall_mem_singleton.mpr hm

/-- What holds of new matchers holds throughout what a call returns. -/
theorem throughout_of_runFrom (hQ : HoldsOfNew Q n) (hc : ∀ u ∈ c.uses, u.Throughout Q)
    (h : c.build.runFrom n = (.ok m, n')) : m.Throughout Q ∧ HoldsOfNew Q n' := by
  cases ht : c.takes? with
  | some p =>
      obtain ⟨o, is⟩ := p
      have hreturns := reports_call ht n
      rw [h] at hreturns
      exact (hreturns.of_ok rfl).throughout hQ hc
  | none =>
      cases c with
      | literal text =>
          rw [build, Input.runFrom_literal] at h
          by_cases hs : text = ""
          · rw [if_pos (by simpa using hs)] at h
            cases h
          · rw [if_neg (by simpa using hs)] at h
            cases h
            exact ⟨Matcher.throughout_leaf hQ hs rfl, hQ.succ⟩
      | regexp source =>
          simp only [build, Matcher.regexp] at h
          split at h
          · cases h
            exact ⟨Matcher.throughout_leaf hQ trivial rfl, hQ.succ⟩
          · cases h
      | endOfInput | nothing | rule =>
          cases h
          exact ⟨Matcher.throughout_leaf hQ trivial rfl, hQ.succ⟩
      | sequence | firstOf | optional | oneOrMore | zeroOrMore | next | nextNot | token
      | commentTrivia | skippedTrivia | adjacent => cases ht

end BuilderCall

/-! ### Workshops -/

namespace Workshop

variable {w w' : Workshop}

/-- A call, a definition or the building of the draft, given known matchers. -/
inductive Step (w : Workshop) : Workshop → Prop where
  | called (c : BuilderCall) : (∀ m ∈ c.uses, w.Known m) → Step w (w.called c)
  | defined (name : String) (body : Input) : (∀ m ∈ body.uses, w.Known m) →
      Step w (w.defined name body)
  | built (root : String) : Step w (w.built root)

/-- The property holds throughout what calls returned, what was defined, and the roots and bodies of
grammars. -/
structure Throughout (Q : Matcher → Prop) (w : Workshop) : Prop where
  made : ∀ m ∈ w.made, m.Throughout Q
  drafted : ∀ r ∈ w.draft.rules, r.2.Throughout Q
  root : ∀ g ∈ w.grammars, g.root.Throughout Q
  body : ∀ g ∈ w.grammars, ∀ r ∈ g.rules, r.2.Throughout Q

theorem Throughout.of_known (hw : ∀ m, w.Known m → Q m) : w.Throughout Q := by
  have hknown : ∀ m, w.Known m → m.Throughout Q := fun m hm m' hm' => hw m' (hm.inside _ hm')
  exact ⟨fun m h => hknown m (.made h), fun r h => hknown r.2 (.drafted h),
    fun g hg => hknown _ (.root hg), fun g hg r h => hknown r.2 (.body hg h)⟩

theorem Throughout.known (hw : w.Throughout Q) (hm : w.Known m) : m.Throughout Q := by
  induction hm with
  | made h => exact hw.made _ h
  | drafted h => exact hw.drafted _ h
  | root hg => exact hw.root _ hg
  | body hg h => exact hw.body _ hg _ h
  | part _ hp ih => exact (Matcher.throughout_iff.mp ih).2 _ hp

theorem Throughout.holds (hw : w.Throughout Q) (hm : w.Known m) : Q m :=
  hw.known hm m (Matcher.mem_inside_self m)

theorem Throughout.opened (n : Nat) : (opened n).Throughout Q :=
  ⟨List.forall_mem_nil _, List.forall_mem_nil _, List.forall_mem_nil _, List.forall_mem_nil _⟩

/-- **What a step keeps.** -/
theorem Step.throughout (hs : w.Step w') (hQ : HoldsOfNew Q w.next) (hw : w.Throughout Q) :
    w'.Throughout Q := by
  cases hs with
  | called c hc =>
      have hnew : ∀ m n, c.build.runFrom w.next = (.ok m, n) → m.Throughout Q := fun m n h =>
        (BuilderCall.throughout_of_runFrom hQ (fun u hu => hw.known (hc u hu)) h).1
      simp only [Workshop.called]
      generalize c.build.runFrom w.next = e at hnew
      rcases e with ⟨e | m, n⟩
      · exact ⟨hw.made, hw.drafted, hw.root, hw.body⟩
      · exact ⟨List.forall_mem_cons.mpr ⟨hnew m n rfl, hw.made⟩, hw.drafted, hw.root, hw.body⟩
  | defined name body hb =>
      have hb : ∀ u ∈ (BuilderCall.sequence [body]).uses, u.Throughout Q := fun u hu =>
        hw.known (hb u (by simpa [BuilderCall.uses, Input.usesAll] using hu))
      have hnew : ∀ m n, Build.runFrom (Matcher.sequence [body]) w.next = (.ok m, n) →
          m.Throughout Q ∧ HoldsOfNew Q n := fun m n => BuilderCall.throughout_of_runFrom hQ hb
      simp only [Workshop.defined, runFrom_define]
      generalize Build.runFrom (Matcher.sequence [body]) w.next = e at hnew
      cases w.draft.isDefined name with
      | true => exact ⟨hw.made, hw.drafted, hw.root, hw.body⟩
      | false =>
          rcases e with ⟨e | m, n⟩
          · exact ⟨hw.made, hw.drafted, hw.root, hw.body⟩
          · obtain ⟨hm, hQ'⟩ := hnew m n rfl
            have hreference : Matcher.Throughout Q ⟨n, .rule name⟩ :=
              Matcher.throughout_leaf hQ' trivial rfl
            have hdrafted : ∀ r ∈ putRule w.draft.rules name m, r.2.Throughout Q := fun r hr =>
              (mem_putRule hr).elim (hw.drafted r) fun he => he ▸ hm
            exact ⟨List.forall_mem_cons.mpr ⟨hreference, hw.made⟩, hdrafted, hw.root, hw.body⟩
  | built root =>
      have hroot : Matcher.Throughout Q ⟨w.next, .rule root⟩ :=
        Matcher.throughout_leaf hQ trivial rfl
      simp only [Workshop.built, runFrom_build]
      cases w.draft.isDefined root with
      | false => exact ⟨hw.made, List.forall_mem_nil _, hw.root, hw.body⟩
      | true =>
          cases w.draft.firstDangling? with
          | some r => exact ⟨hw.made, List.forall_mem_nil _, hw.root, hw.body⟩
          | none =>
              exact ⟨hw.made, List.forall_mem_nil _, List.forall_mem_cons.mpr ⟨hroot, hw.root⟩,
                List.forall_mem_cons.mpr ⟨hw.drafted, hw.body⟩⟩

/-- What holds of all new matchers holds of all there are. -/
theorem Reachable.throughout (hw : w.Reachable) (hQ : ∀ n, HoldsOfNew Q n) : w.Throughout Q := by
  induction hw with
  | opened n => exact .opened n
  | called c _ hc ih => exact (Step.called c hc).throughout (hQ _) ih
  | defined name body _ hb ih => exact (Step.defined name body hb).throughout (hQ _) ih
  | built root _ ih => exact (Step.built root).throughout (hQ _) ih

theorem Reachable.sound (hw : w.Reachable) (hm : w.Known m) : m.shape.Sound := by
  have hall : w.Throughout (·.shape.Sound) := hw.throughout fun _ _ _ _ hshape => hshape
  exact hall.holds hm

/-- What is new has a number from the next one on. -/
theorem Step.known_or_le (hs : w.Step w') (hm : w'.Known m) : w.Known m ∨ w.next ≤ m.id := by
  have hnew : HoldsOfNew (fun m => w.Known m ∨ w.next ≤ m.id) w.next := fun hk _ => .inr hk
  have hall : w'.Throughout fun m => w.Known m ∨ w.next ≤ m.id :=
    hs.throughout hnew (.of_known fun _ => .inl)
  exact hall.holds hm

/-- What is inside of a part was made before the matcher. -/
theorem Reachable.id_lt_of_mem_inside (hw : w.Reachable) (hm : w.Known m) {p m' : Matcher}
    (hp : p ∈ m.parts) (hm' : m' ∈ p.inside) : m'.id < m.id := by
  induction m using Matcher.induction_parts generalizing p with
  | step m ih =>
      have hlt : p.id < m.id := hw.stock.part_lt hm hp
      rcases Matcher.mem_inside_iff.mp hm' with rfl | ⟨p', hp', hm'⟩
      · exact hlt
      · exact Nat.lt_trans (ih p hp (.part hm hp) hp' hm') hlt

end Workshop

/-- **Well formed.**  In a reachable workshop, matchers with the same number have the same shape and
the same parts.  Every matcher has a smaller number than the ones that are made later, and a larger
one than everything inside of it, so it is not inside of itself; sequences and choices have two
parts at least, and literals are not empty. -/
theorem known_well_formed {w : Workshop} (hw : w.Reachable) :
    (∀ a b, w.Known a → w.Known b → a.id = b.id → a.shape = b.shape ∧ a.parts = b.parts) ∧
    (∀ w', w.Step w' → ∀ m, w'.Known m → w.Known m ∨ w.next ≤ m.id) ∧
    ∀ m, w.Known m →
      m.id < w.next ∧
      (∀ p ∈ m.parts, ∀ m' ∈ p.inside, m'.id < m.id ∧ m' ≠ m) ∧
      (∀ ms, m.shape = .sequence ms ∨ m.shape = .firstOf ms → 2 ≤ ms.length) ∧
      ∀ text, m.shape = .literal text → text ≠ "" := by
  refine ⟨fun a b ha hb hid => ?_, fun w' hs m => hs.known_or_le, fun m hm => ?_⟩
  · cases hw.stock.unique ha hb hid
    exact ⟨rfl, rfl⟩
  · have hsound := hw.sound hm
    refine ⟨hw.stock.id_lt hm, fun p hp m' hm' => ?_, fun ms hms => ?_, fun text ht => ?_⟩
    · have hlt := hw.id_lt_of_mem_inside hm hp hm'
      exact ⟨hlt, fun he => Nat.lt_irrefl _ (he ▸ hlt)⟩
    · rcases hms with he | he <;> exact (he ▸ hsound : Shape.Sound _)
    · exact (ht ▸ hsound : Shape.Sound (.literal text))

/-- A literal. -/
def letterMatcher : Matcher := ⟨7, .literal "a"⟩

/-- The literal twice. -/
def letterPair : Matcher := ⟨9, .sequence [letterMatcher, letterMatcher]⟩

/-- The literal is made, then a choice is not since one of its texts is empty, and then the literal
is put twice into a sequence and this into an option. -/
def letterWorkshop : Workshop :=
  ((((Workshop.opened 7).called (.literal "a")).called (.firstOf [.char 'b', .text ""])).called
    (.sequence [.matcher letterMatcher, .many [.matcher letterMatcher]])).called
      (.optional (.matcher letterPair))

theorem letterWorkshop_reachable : letterWorkshop.Reachable := by
  refine .called _ (.called _ (.called _ (.called _ (.opened 7) ?_) ?_) ?_) ?_
  · exact List.forall_mem_nil _
  · exact List.forall_mem_nil _
  · -- both inputs are the literal that the first call returned
    have hletter : letterMatcher ∈ (((Workshop.opened 7).called (.literal "a")).called
        (.firstOf [.char 'b', .text ""])).made := .head _
    exact List.forall_mem_cons.mpr ⟨.made hletter, List.forall_mem_singleton.mpr (.made hletter)⟩
  · exact List.forall_mem_singleton.mpr (.made (.head _))

/-- The number that the failed call used up is not given out again, and the literal that stands
twice in the sequence is one matcher, made before it. -/
theorem shared_literal_made_first :
    letterWorkshop.Reachable ∧
    letterWorkshop.made = [⟨10, .optional letterPair⟩, letterPair, letterMatcher] ∧
    (∀ p ∈ letterPair.parts, ∀ m' ∈ p.inside, m'.id < letterPair.id ∧ m' ≠ letterPair) ∧
    2 ≤ [letterMatcher, letterMatcher].length ∧ "a" ≠ "" := by
  have hw := letterWorkshop_reachable
  have hpair : letterWorkshop.Known letterPair := .made (.tail _ (.head _))
  have hletter : letterWorkshop.Known letterMatcher := .part hpair (.head _)
  obtain ⟨-, hparts, htwo, -⟩ := (known_well_formed hw).2.2 _ hpair
  exact ⟨hw, rfl, hparts, htwo _ (.inl rfl), ((known_well_formed hw).2.2 _ hletter).2.2.2 _ rfl⟩

end Packrat
