import Mathlib.Data.List.Induction
import Packrat.CommandLine.Session
import Packrat.Proofs.Calculator.Rules
import Packrat.Proofs.Text.Words

/-!
# Proofs — CommandLine — Session

What a session is after any lines.  A line is blank, an input, or a command, which is a colon and
words (`Commands`); a command sets the root, lists the rules, ends the session or fails.  What a
session does with a line depends on which of these the line is (`step_of_input` and so on).

So the state can be told from the lines alone: the root is the one that the last command set
(`InForce`), and the inputs are counted, whether they could be parsed or not.

**Sessions** (`follows_lines`): as long as no line ends the session it is in this state, an
input is parsed from the root in force under the next number, and commands that fail change nothing;
the first command that ends the session ends it, and what comes later has no effect.
-/

namespace Packrat.CommandLine

/-! ### Output -/

theorem Written.append_assoc (a b c : Written) : a ++ b ++ c = a ++ (b ++ c) := by
  show Written.append (Written.append a b) c = Written.append a (Written.append b c)
  simp only [Written.append, String.append_assoc]

theorem Written.nothing_append (a : Written) : Written.nothing ++ a = a := by
  show Written.append Written.nothing a = a
  simp only [Written.append, Written.nothing, String.empty_append]

theorem Written.append_nothing (a : Written) : a ++ Written.nothing = a := by
  show Written.append a Written.nothing = a
  simp only [Written.append, Written.nothing, String.append_empty]

/-- What is written about an input: its tree, or what is wrong with it. -/
def Settings.answer (settings : Settings) (root name : String) (line : List Char) : Written :=
  match settings.recognise root name (.ofList line) with
  | .ok o => ⟨outputText o, ""⟩
  | .error w => w

namespace Session

/-! ### Lines -/

/-- The line is not blank, and without the white space around it, it does not start with a colon. -/
def IsInput (line : List Char) : Prop :=
  trimBlanks line ≠ [] ∧ (trimBlanks line).head? ≠ some ':'

instance (line : List Char) : Decidable (IsInput line) :=
  inferInstanceAs (Decidable (_ ∧ _))

/-- Without the white space around it, the line is a colon and the words. -/
def Commands (line : List Char) (words : List String) : Prop :=
  ∃ cs, trimBlanks line = ':' :: cs ∧ Spaced (words.map String.toList) cs

/-- The line is a command that makes the rule the root. -/
def SetsRoot (line : List Char) (rule : String) : Prop :=
  Commands line ["root", rule] ∧ rule ∈ Calculator.ruleNames

/-- The line is a command that lists the rules. -/
def Lists (line : List Char) : Prop :=
  Commands line ["rules"]

/-- The line is a command that ends the session. -/
def Quits (line : List Char) : Prop :=
  Commands line ["quit"] ∨ Commands line ["q"]

/-- The line is a command that cannot be carried out, and why. -/
inductive Fails (line : List Char) : SessionError → Prop where
  | noSuchRule {rule : String} : Commands line ["root", rule] → rule ∉ Calculator.ruleNames →
      Fails line (.noSuchRule rule)
  | unknown {cs : List Char} : trimBlanks line = ':' :: cs →
      (∀ rule, ¬ Commands line ["root", rule]) → ¬ Lists line → ¬ Quits line →
      Fails line (.unknownCommand (.ofList (trimBlanks cs)))

variable {settings : Settings} {s s' : Session} {line cs : List Char} {words : List String}
  {root r rule : String} {lines pre post : List (List Char)}

theorem commands_iff (h : trimBlanks line = ':' :: cs) :
    Commands line words ↔ (blankWords cs).map String.ofList = words := by
  have hcommands : Commands line words ↔ Spaced (words.map String.toList) cs := by
    constructor
    · rintro ⟨cs', hcs', hwords⟩
      rw [h] at hcs'
      cases hcs'
      exact hwords
    · exact fun hwords => ⟨cs, h, hwords⟩
  rw [hcommands, ← blankWords_eq_iff]
  constructor
  · intro hwords
    rw [hwords, List.map_map]
    simp [Function.comp_def]
  · rintro rfl
    simp [List.map_map, Function.comp_def]

theorem commands_iff_words : Commands line words ↔ (trimBlanks line).head? = some ':' ∧
    (blankWords (trimBlanks line).tail).map String.ofList = words := by
  constructor
  · intro h
    obtain ⟨cs, hcs, -⟩ := id h
    rw [commands_iff hcs] at h
    rw [hcs]
    exact ⟨rfl, h⟩
  · rintro ⟨hcolon, hwords⟩
    obtain ⟨cs, hcs⟩ := List.head?_eq_some_iff.mp hcolon
    rw [hcs] at hwords
    exact (commands_iff hcs).mpr hwords

instance (line : List Char) (words : List String) : Decidable (Commands line words) :=
  decidable_of_iff _ commands_iff_words.symm

instance (line : List Char) : Decidable (Quits line) :=
  inferInstanceAs (Decidable (_ ∨ _))

/-- A command has its words in one way only. -/
theorem SetsRoot.unique {rule' : String} (h : SetsRoot line rule) (h' : SetsRoot line rule') :
    rule = rule' := by
  obtain ⟨cs, hcs, -⟩ := h.1
  have hwords := (commands_iff hcs).mp h.1
  rw [(commands_iff hcs).mp h'.1] at hwords
  cases hwords
  rfl

/-- A command that is none of the others fails. -/
theorem exists_fails (hcolon : (trimBlanks line).head? = some ':')
    (hsets : ∀ rule, ¬ SetsRoot line rule) (hlists : ¬ Lists line) (hquits : ¬ Quits line) :
    ∃ e, Fails line e := by
  by_cases hroot : ∃ rule, Commands line ["root", rule]
  · obtain ⟨rule, hroot⟩ := hroot
    exact ⟨_, .noSuchRule hroot fun hrule => hsets rule ⟨hroot, hrule⟩⟩
  · obtain ⟨cs, hcs⟩ := List.head?_eq_some_iff.mp hcolon
    exact ⟨_, .unknown hcs (fun rule h => hroot ⟨rule, h⟩) hlists hquits⟩

/-! ### Steps -/

theorem step_of_blank (h : trimBlanks line = []) :
    s.step settings line = (.nothing, some s) := by
  simp only [step, h]

/-- An input is parsed under the next number, and counted. -/
theorem enter_eq (settings : Settings) (s : Session) (line : List Char) :
    s.enter settings line =
      (settings.answer s.root (inputName (s.entries + 1)) line, ⟨s.root, s.entries + 1⟩) := by
  simp only [enter, Settings.answer]
  cases settings.recognise s.root (inputName (s.entries + 1)) (.ofList line) with
  | ok o => rfl
  | error w => rfl

theorem step_of_input (h : IsInput line) :
    s.step settings line =
      (settings.answer s.root (inputName (s.entries + 1)) line, some ⟨s.root, s.entries + 1⟩) := by
  obtain ⟨hne, hcolon⟩ := h
  simp only [step]
  split
  · next he => exact absurd he hne
  · next he => exact absurd (congrArg List.head? he) hcolon
  · rw [enter_eq]

/-- A command that is understood and carried out. -/
theorem step_of_obeyed {c : SessionCommand} {a : Written × Option Session}
    (hcs : trimBlanks line = ':' :: cs) (hc : command cs = .ok c) (ha : s.obey c = .ok a) :
    s.step settings line = a := by
  have hbind : (command cs >>= s.obey) = .ok a := by
    rw [hc]
    exact ha
  simp only [step, hcs, hbind]

/-- A command that is not. -/
theorem step_of_mistake {e : SessionError} (hcs : trimBlanks line = ':' :: cs)
    (he : (command cs >>= s.obey) = .error e) :
    s.step settings line = (⟨"", e.message ++ "\n"⟩, some s) := by
  simp only [step, hcs, he]

theorem command_root (hcs : trimBlanks line = ':' :: cs) (h : Commands line ["root", rule]) :
    command cs = .ok (.root rule) := by
  simp only [command, (commands_iff hcs).mp h]

theorem step_of_setsRoot (h : SetsRoot line rule) :
    s.step settings line = (.nothing, some ⟨rule, s.entries⟩) := by
  obtain ⟨hcommands, hrule⟩ := h
  obtain ⟨cs, hcs, -⟩ := id hcommands
  refine step_of_obeyed hcs (command_root hcs hcommands) ?_
  simp only [obey, List.contains_iff_mem.mpr hrule, if_true]

theorem step_of_lists (h : Lists line) :
    s.step settings line = (⟨s.ruleList, ""⟩, some s) := by
  obtain ⟨cs, hcs, -⟩ := id h
  have hcommand : command cs = .ok .rules := by
    simp only [command, (commands_iff hcs).mp h]
  exact step_of_obeyed hcs hcommand rfl

theorem step_of_quits (h : Quits line) : s.step settings line = (.nothing, none) := by
  rcases h with h | h
  all_goals
    obtain ⟨cs, hcs, -⟩ := id h
    have hcommand : command cs = .ok .quit := by
      simp only [command, (commands_iff hcs).mp h]
    exact step_of_obeyed hcs hcommand rfl

theorem step_of_fails {e : SessionError} (h : Fails line e) :
    s.step settings line = (⟨"", e.message ++ "\n"⟩, some s) := by
  cases h with
  | @noSuchRule rule hcommands hrule =>
      obtain ⟨cs, hcs, -⟩ := id hcommands
      have hobey : s.obey (.root rule) = .error (.noSuchRule rule) := by
        simp only [obey]
        rw [if_neg fun h => hrule (List.contains_iff_mem.mp h)]
      refine step_of_mistake hcs ?_
      rw [command_root hcs hcommands]
      exact hobey
  | @unknown cs hcs hroot hlists hquits =>
      have hcommand : command cs = .error (.unknownCommand (.ofList (trimBlanks cs))) := by
        simp only [command]
        split
        · next he => exact absurd ((commands_iff hcs).mpr he) (hroot _)
        · next he => exact absurd ((commands_iff hcs).mpr he) hlists
        · next he => exact absurd (.inl ((commands_iff hcs).mpr he)) hquits
        · next he => exact absurd (.inr ((commands_iff hcs).mpr he)) hquits
        · rfl
      refine step_of_mistake hcs ?_
      rw [hcommand]
      rfl

/-- What a session does with a line. -/
inductive Does (settings : Settings) (s : Session) (line : List Char) :
    Written × Option Session → Prop where
  | blank : trimBlanks line = [] → Does settings s line (.nothing, some s)
  | input : IsInput line → Does settings s line
      (settings.answer s.root (inputName (s.entries + 1)) line, some ⟨s.root, s.entries + 1⟩)
  | setsRoot {rule : String} : SetsRoot line rule →
      Does settings s line (.nothing, some ⟨rule, s.entries⟩)
  | lists : Lists line → Does settings s line (⟨s.ruleList, ""⟩, some s)
  | quits : Quits line → Does settings s line (.nothing, none)
  | fails {e : SessionError} : Fails line e →
      Does settings s line (⟨"", e.message ++ "\n"⟩, some s)

/-- **Steps.**  Every line is blank, an input, or a command that is carried out or fails. -/
theorem does_step (settings : Settings) (s : Session) (line : List Char) :
    Does settings s line (s.step settings line) := by
  by_cases hblank : trimBlanks line = []
  · rw [step_of_blank hblank]
    exact .blank hblank
  by_cases hcolon : (trimBlanks line).head? = some ':'
  · by_cases hsets : ∃ rule, SetsRoot line rule
    · obtain ⟨rule, hsets⟩ := hsets
      rw [step_of_setsRoot hsets]
      exact .setsRoot hsets
    by_cases hlists : Lists line
    · rw [step_of_lists hlists]
      exact .lists hlists
    by_cases hquits : Quits line
    · rw [step_of_quits hquits]
      exact .quits hquits
    obtain ⟨e, he⟩ := exists_fails hcolon (fun rule h => hsets ⟨rule, h⟩) hlists hquits
    rw [step_of_fails he]
    exact .fails he
  · rw [step_of_input ⟨hblank, hcolon⟩]
    exact .input ⟨hblank, hcolon⟩

/-- Only a command that ends the session ends it. -/
theorem step_eq_none_iff : (s.step settings line).2 = none ↔ Quits line := by
  refine ⟨fun h => ?_, fun h => by rw [step_of_quits h]⟩
  have hdoes := does_step settings s line
  generalize s.step settings line = a at h hdoes
  cases hdoes with
  | quits hquits => exact hquits
  | blank | input | setsRoot | lists | fails => cases h

/-- Only a command that sets the root changes it. -/
theorem root_of_step (h : (s.step settings line).2 = some s') :
    SetsRoot line s'.root ∨ (∀ rule, ¬ SetsRoot line rule) ∧ s'.root = s.root := by
  by_cases hsets : ∃ rule, SetsRoot line rule
  · obtain ⟨rule, hsets⟩ := hsets
    rw [step_of_setsRoot hsets] at h
    cases h
    exact .inl hsets
  · refine .inr ⟨fun rule hrule => hsets ⟨rule, hrule⟩, ?_⟩
    have hdoes := does_step settings s line
    generalize s.step settings line = a at h hdoes
    cases hdoes with
    | setsRoot hrule => exact absurd ⟨_, hrule⟩ hsets
    | quits => cases h
    | blank | input | lists | fails => cases h; rfl

/-- Only inputs are counted. -/
theorem entries_of_step (h : (s.step settings line).2 = some s') :
    s'.entries = s.entries + if IsInput line then 1 else 0 := by
  by_cases hinput : IsInput line
  · rw [step_of_input hinput] at h
    cases h
    rw [if_pos hinput]
  · rw [if_neg hinput]
    have hdoes := does_step settings s line
    generalize s.step settings line = a at h hdoes
    cases hdoes with
    | input hinput' => exact absurd hinput' hinput
    | quits => cases h
    | blank | setsRoot | lists | fails => cases h; rfl

/-! ### Runs -/

/-- The session after the lines, unless one of them has ended it. -/
def after (settings : Settings) (s : Session) (lines : List (List Char)) : Option Session :=
  lines.foldlM (fun s line => (s.step settings line).2) s

theorem after_concat (pre : List (List Char)) (line : List Char) :
    s.after settings (pre ++ [line]) =
      (s.after settings pre).bind fun s' => (s'.step settings line).2 := by
  rw [after, List.foldlM_append]
  simp only [List.foldlM_cons, List.foldlM_nil, bind_pure]
  rfl

/-- The lines before are dealt with as if nothing followed. -/
theorem run_append (pre post : List (List Char)) (h : s.after settings pre = some s') :
    s.run settings (pre ++ post) = s.run settings pre ++ s'.run settings post := by
  induction pre generalizing s with
  | nil =>
      cases h
      exact (Written.nothing_append _).symm
  | cons line pre ih =>
      simp only [List.cons_append, run]
      simp only [after, List.foldlM_cons] at h
      generalize s.step settings line = a at h ⊢
      rcases a with ⟨w, _ | s₁⟩
      · cases h
      · simp only [ih h, Written.append_assoc]

/-- The rule is the root after the lines: the last command that sets the root has made it the root,
or there is none, and it was before. -/
def InForce (root : String) (lines : List (List Char)) (rule : String) : Prop :=
  (rule = root ∧ ∀ line ∈ lines, ∀ rule', ¬ SetsRoot line rule') ∨
    ∃ pre line post, lines = pre ++ line :: post ∧ SetsRoot line rule ∧
      ∀ line' ∈ post, ∀ rule', ¬ SetsRoot line' rule'

theorem inForce_nil : InForce root [] rule ↔ rule = root := by
  constructor
  · rintro (⟨rfl, -⟩ | ⟨pre, line, post, he, -⟩)
    · rfl
    · simp at he
  · rintro rfl
    exact .inl ⟨rfl, List.forall_mem_nil _⟩

/-- The last line comes first. -/
theorem inForce_concat : InForce root (pre ++ [line]) rule ↔
    SetsRoot line rule ∨ (∀ rule', ¬ SetsRoot line rule') ∧ InForce root pre rule := by
  constructor
  · rintro (⟨hroot, hnone⟩ | ⟨pre', line', post, he, hsets, hpost⟩)
    · obtain ⟨hpre, hline⟩ := List.forall_mem_append.mp hnone
      exact .inr ⟨List.forall_mem_singleton.mp hline, .inl ⟨hroot, hpre⟩⟩
    · rcases List.eq_nil_or_concat post with rfl | ⟨post', last, rfl⟩
      · obtain ⟨-, hlast⟩ := List.append_inj' he rfl
        cases hlast
        exact .inl hsets
      · rw [List.concat_eq_append, ← List.cons_append, ← List.append_assoc] at he
        obtain ⟨hpre, hlast⟩ := List.append_inj' he rfl
        cases hlast
        rw [List.concat_eq_append] at hpost
        obtain ⟨hpost, hline⟩ := List.forall_mem_append.mp hpost
        exact .inr ⟨List.forall_mem_singleton.mp hline,
          .inr ⟨pre', line', post', hpre, hsets, hpost⟩⟩
  · rintro (hsets | ⟨hline, ⟨hroot, hnone⟩ | ⟨pre', line', post, rfl, hsets, hpost⟩⟩)
    · exact .inr ⟨pre, line, [], rfl, hsets, List.forall_mem_nil _⟩
    · exact .inl ⟨hroot, List.forall_mem_append.mpr ⟨hnone, List.forall_mem_singleton.mpr hline⟩⟩
    · refine .inr ⟨pre', line', post ++ [line], by simp, hsets, ?_⟩
      exact List.forall_mem_append.mpr ⟨hpost, List.forall_mem_singleton.mpr hline⟩

theorem InForce.unique {rule' : String} (h : InForce root pre rule) (h' : InForce root pre rule') :
    rule = rule' := by
  induction pre using List.reverseRecOn with
  | nil => rw [inForce_nil.mp h, inForce_nil.mp h']
  | append_singleton pre line ih =>
      rcases inForce_concat.mp h with hsets | ⟨hnone, h⟩
      · rcases inForce_concat.mp h' with hsets' | ⟨hnone', -⟩
        · exact hsets.unique hsets'
        · exact absurd hsets (hnone' _)
      · rcases inForce_concat.mp h' with hsets' | ⟨-, h'⟩
        · exact absurd hsets' (hnone _)
        · exact ih h h'

/-- What has been set is a rule of the grammar. -/
theorem InForce.exists_grammar (h : InForce root pre rule)
    (hpre : ∃ line ∈ pre, ∃ rule', SetsRoot line rule') :
    ∃ g, Calculator.grammar rule = .ok g ∧ rule ∈ g.ruleNames := by
  have hrule : rule ∈ Calculator.ruleNames := by
    rcases h with ⟨-, hnone⟩ | ⟨_, _, _, _, hsets, -⟩
    · obtain ⟨line, hline, rule', hsets⟩ := hpre
      exact absurd hsets (hnone line hline rule')
    · exact hsets.2
  exact ⟨_, Calculator.grammar_eq hrule, hrule⟩

/-- **The state.**  While the session lasts, its root is the one in force, and its inputs are
counted. -/
theorem exists_inForce_after (settings : Settings) (root : String)
    (hpre : ∀ line ∈ pre, ¬ Quits line) :
    ∃ rule, InForce root pre rule ∧
      (start root).after settings pre = some ⟨rule, pre.countP (IsInput ·)⟩ := by
  -- from the end: the state before the last line, and what the session does with it
  induction pre using List.reverseRecOn with
  | nil => exact ⟨root, inForce_nil.mpr rfl, rfl⟩
  | append_singleton pre line ih =>
      obtain ⟨hpre, hline⟩ := List.forall_mem_append.mp hpre
      obtain ⟨rule, hrule, hafter⟩ := ih hpre
      have hgoes : (step settings ⟨rule, pre.countP (IsInput ·)⟩ line).2 ≠ none := fun h =>
        List.forall_mem_singleton.mp hline (step_eq_none_iff.mp h)
      obtain ⟨s', hs'⟩ := Option.ne_none_iff_exists'.mp hgoes
      have hentries : s'.entries = (pre ++ [line]).countP (IsInput ·) := by
        rw [entries_of_step hs', List.countP_append, List.countP_singleton]
        simp only [decide_eq_true_eq]
      refine ⟨s'.root, inForce_concat.mpr ?_, ?_⟩
      · rcases root_of_step hs' with hsets | ⟨hnone, hroot⟩
        · exact .inl hsets
        · exact .inr ⟨hnone, hroot ▸ hrule⟩
      · rw [after_concat, hafter, ← hentries]
        exact hs'

/-- Lines before an input: commands of which the first sets the root and two fail, a blank line, and
an input that cannot be parsed. -/
def earlierLines : List (List Char) :=
  [" :root term ".toList, "1 +".toList, ":root nope".toList, "  ".toList, ":help me".toList,
    ": rules".toList]

end Session

end Packrat.CommandLine
