import Mise.Proofs.Coverage.Step
import Mise.Proofs.Text.Spacing

/-!
# What a Step Reads As

A step is read as one text. It is put together from the pieces of its content, which are the items
of the step one by one: a text is taken over as it is, and a usage appears as its name behind the
sign of its kind, with its value in braces if it is a timer or a temperature. An alternative appears as its options with bars between them, however deep the
groups are nested. White space at the two ends of the whole is cut off, and none inside.

How usages read is put down as a relation, one rule for each kind. The text of a usage is the one
thing it reads as, so the relation says no less than the function.

## Main definitions

* `ReadsValue`: What a value reads as.
* `Usage.Reads`, `StepContent.Reads`: What a usage and a piece of content read as.
* `Step.IsSentence`: The text of a step is what its content reads as.

## Theorems

* `reads_iff`: A usage reads as its text, and as nothing else.
* `text_takeIn`: One more item adds what its content reads as.
* `text_mark`: Marks are not read.
* `content_and_text`: The content of a step is its items, and its text is its content.
-/

namespace Mise

/-- What the value of a timer or a temperature reads as: it stands in braces, with the unit right
    behind it. -/
inductive ReadsValue : Option Figure → Option String → String → Prop
  | missing (unit : Option String) : ReadsValue none unit ""
  | written (f : Figure) (unit : Option String) :
      ReadsValue (some f) unit ("\x7b" ++ f.display ++ unit.getD "" ++ "\x7d")

/-- What a usage reads as within a sentence. -/
inductive Usage.Reads : Usage → String → Prop
  | ingredient (u : ItemUsage) : Reads (.ingredient u) ("@" ++ u.name)
  | cookware (u : ItemUsage) : Reads (.cookware u) ("#" ++ u.name)
  | mention (m : MentionUsage) : Reads (.mention m) ("&" ++ m.name)
  | timer (t : TimerUsage) {value : String} (reads : ReadsValue t.quantity t.unit value) :
      Reads (.timer t)
        ("~" ++ t.name.getD "" ++ value ++ if t.background then "&" else "")
  | temperature (t : TemperatureUsage) {value : String}
      (reads : ReadsValue t.quantity t.unit value) :
      Reads (.temperature t) ("!" ++ t.name.getD "" ++ value)
  | comment (c : Comment) : Reads (.comment c) ""
  | alternative {options : List Usage} {texts : List String}
      (reads : List.Forall₂ Reads options texts) :
      Reads (.alternative options) ("|".intercalate texts)

/-- What a piece of content reads as. -/
inductive StepContent.Reads : StepContent → String → Prop
  | text (s : String) : Reads (.text s) s
  | usage {u : Usage} {s : String} (reads : u.Reads s) : Reads (.usage u) s

/-- The text of a step is what its content reads as, piece after piece, without white space at
    either end. -/
def Step.IsSentence (step : Step) : Prop :=
  ∃ texts, List.Forall₂ StepContent.Reads step.content texts
    ∧ Text.TrimsTo (String.join texts).toList step.text.toList

section Reading

theorem texts_eq_map (us : List Usage) : Usage.texts us = us.map Usage.text := by
  induction us with
  | nil => rfl
  | cons u us ih => rw [Usage.texts, List.map_cons, ih]

/-- Usages read as their texts one by one if each of them does. -/
theorem forall₂_reads {us : List Usage} (h : ∀ u ∈ us, ∀ s, u.Reads s ↔ s = u.text)
    (texts : List String) : List.Forall₂ Usage.Reads us texts ↔ texts = us.map Usage.text := by
  induction us generalizing texts with
  | nil => rw [List.forall₂_nil_left_iff, List.map_nil]
  | cons u us ih =>
      have hrest := ih fun other hmem => h other (List.mem_cons_of_mem u hmem)
      rw [List.forall₂_cons_left_iff, List.map_cons]
      constructor
      · rintro ⟨s, rest, hreads, hall, rfl⟩
        rw [(h u List.mem_cons_self s).1 hreads, (hrest rest).1 hall]
      · intro htexts
        exact ⟨u.text, us.map Usage.text, (h u List.mem_cons_self _).2 rfl, (hrest _).2 rfl, htexts⟩

theorem readsValue_iff {figure : Option Figure} {unit : Option String} {s : String} :
    ReadsValue figure unit s ↔ s = braces figure unit := by
  constructor
  · rintro (unit | ⟨f, unit⟩) <;> rfl
  · rintro rfl
    cases figure with
    | none => exact .missing unit
    | some f => exact .written f unit

/-- A usage reads as its text, and as nothing else. -/
theorem reads_iff (u : Usage) (s : String) : u.Reads s ↔ s = u.text := by
  induction u using Usage.induction generalizing s with
  | single u hsingle =>
      constructor
      · intro h
        cases h with
        | alternative _ => exact absurd rfl (hsingle _)
        | timer t hvalue => rw [Usage.text, readsValue_iff.1 hvalue]
        | temperature t hvalue => rw [Usage.text, readsValue_iff.1 hvalue]
        | _ => rw [Usage.text]
      · rintro rfl
        cases u with
        | alternative options => exact absurd rfl (hsingle options)
        | timer t =>
            rw [Usage.text]
            exact .timer t (readsValue_iff.2 rfl)
        | temperature t =>
            rw [Usage.text]
            exact .temperature t (readsValue_iff.2 rfl)
        | _ =>
            rw [Usage.text]
            constructor
  | alternative options ih =>
      -- The texts of the options are determined, and so is what stands between the bars.
      have hoptions := forall₂_reads ih
      rw [Usage.text, texts_eq_map]
      constructor
      · intro h
        cases h with
        | alternative hreads => rw [(hoptions _).1 hreads]
      · rintro rfl
        exact .alternative ((hoptions _).2 rfl)

/-- The text of a piece of content. -/
def StepContent.reading : StepContent → String
  | .text s => s
  | .usage u => u.text

theorem content_reads (content : StepContent) : content.Reads content.reading := by
  cases content with
  | text s => exact .text s
  | usage u => exact .usage ((reads_iff u u.text).2 rfl)

theorem isSentence_of_text {step : Step}
    (h : step.text = Text.trimmed (String.join (step.content.map StepContent.reading))) :
    step.IsSentence := by
  refine ⟨_, List.forall₂_map_right_iff.2 (List.forall₂_same.2 fun content _ =>
    content_reads content), ?_⟩
  rw [h, Text.trimmed, String.toList_ofList]
  exact Text.trimsTo_trim _

end Reading

section Steps

variable (weighing : Weighing)

/-- One more item adds what its content reads as. -/
theorem text_takeIn (resolved : Resolved) (p : StepProgress) (walk : Walk) :
    (takeIn resolved p walk).1.text
      = p.text ++ String.join (resolved.contents.map StepContent.reading) := by
  cases resolved with
  | text s =>
      simp only [takeIn, StepProgress.addText, Resolved.contents, List.map_cons, List.map_nil,
        StepContent.reading, String.join_cons, String.join_nil, String.append_empty]
  | nothing =>
      simp only [takeIn, Resolved.contents, List.map_nil, String.join_nil, String.append_empty]
  | usage u =>
      simp only [takeIn, passTime, Resolved.contents, List.map_cons, List.map_nil,
        StepContent.reading, String.join_cons, String.join_nil, String.append_empty]
      -- Time passes beside the text.
      split
      · rfl
      · split <;> rfl

/-- The text of a step is that of its content. -/
theorem text_compileStep (node : StepNode) (listed : Listed) (walk : Walk) :
    (compileStep weighing node listed walk).1.text
      = Text.trimmed (String.join
          ((compileStep weighing node listed walk).1.content.map StepContent.reading)) := by
  have hitems := compileItems_keeps weighing
    (fun _ p _ _ => p.text = String.join (p.content.map StepContent.reading))
    (fun _ item p l w h => by
      rw [text_takeIn, content_takeIn, List.map_append, String.join_append, h])
    node.items [] .empty listed (openStep walk) rfl
  simp only [compileStep, ← openStep.eq_def]
  rw [hitems]

end Steps

section Marks

variable (ids : Names)

/-- Marks are not read. -/
theorem text_mark (u : Usage) : (u.mark ids).text = u.text := by
  induction u using Usage.induction with
  | single u hsingle =>
      cases u with
      | ingredient u =>
          rcases mark_eq ids u with ⟨circular, hmark⟩
          rw [mark_ingredient, hmark, Usage.text, Usage.text]
      | alternative options => exact absurd rfl (hsingle options)
      | _ => rfl
  | alternative options ih =>
      rw [mark_alternative, Usage.text, Usage.text, texts_eq_map, texts_eq_map, List.map_map]
      exact congrArg _ (List.map_congr_left ih)

theorem isSentence_mark {step : Step} (h : step.IsSentence) : (step.mark ids).IsSentence := by
  rcases h with ⟨texts, hreads, htext⟩
  refine ⟨texts, List.forall₂_map_left_iff.2 (hreads.imp fun content s hcontent => ?_), htext⟩
  cases hcontent with
  | text s => exact .text s
  | @usage u s hu =>
      have hmarked : s = (u.mark ids).text := by
        rw [text_mark]
        exact (reads_iff u s).1 hu
      exact .usage ((reads_iff _ s).2 hmarked)

end Marks

/-- The content of a step is its items but for declarations, one by one, and its text is what the
    content reads as; the preparation it produces is the one that is declared last. This holds of
    any step wherever a walk has come to, and of each step of a compiled recipe. -/
theorem content_and_text :
    (∀ (weighing : Weighing) (node : StepNode) (listed : Listed) (walk : Walk),
      let step := (compileStep weighing node listed walk).1
      node.CompiledTo step ∧ step.IsSentence)
    ∧ ∀ (o : CompileOptions) (r : Recipe),
      List.Forall₂ (fun node step => node.CompiledTo step ∧ step.IsSentence)
        (stepNodes (likeFirst r.children))
        ((compileRecipe o r).sections.flatMap Section.steps) := by
  have hstep : ∀ (weighing : Weighing) (node : StepNode) (listed : Listed) (walk : Walk),
      node.CompiledTo (compileStep weighing node listed walk).1
        ∧ (compileStep weighing node listed walk).1.IsSentence :=
    fun weighing node listed walk => ⟨compiledTo_compileStep weighing node listed walk,
      isSentence_of_text (text_compileStep weighing node listed walk)⟩
  refine ⟨hstep, compileRecipe_forall₂ _ hstep fun ids node step h => ?_⟩
  exact ⟨compiledTo_mark ids h.1, isSentence_mark ids h.2⟩

end Mise
