import Mise.Proofs.Preparation.Tracking
import Mise.Proofs.Resolution.Visit
import Mise.Proofs.Usage.Form

/-!
# What a Mention Inherits

A mention that says how much is taken is weighed by that, and one that does not stands for all of
the preparation and inherits its weight. Whether a weight is inherited can be seen from the mass of
the usage, because no other mass is said to come from a preparation.

What counts as saying how much is taken is decided on the amount that a quantity is written as, and
a share is written without one. So a mention with a share says how much is taken, and inherits the
whole weight all the same: it is resolved as if it had no quantity. Every other quantity that is
given keeps the weight from being inherited.

## Main definitions

* `Mention.hasQuantity`, `Mention.isShare`: What a mention says.
* `MentionUsage.Inherits`: The mass of a mention is taken over from a preparation.

## Theorems

* `Mention.isBare_eq`: A mention without an amount has no quantity, or a share.
* `not_inherits_of_amount`, `inherits_iff`: When a weight is inherited.
* `mentions_inherit`: Mentions at any point of a walk, and those of a document.
-/

namespace Mise

/-- Whether a mention comes with a quantity. -/
def Mention.hasQuantity (m : Mention) : Bool :=
  m.quantity.any Quantity.isPresent

/-- Whether the quantity of a mention is a share. -/
def Mention.isShare (m : Mention) : Bool :=
  match m.quantity with
  | some (.share _) => true
  | _ => false

/-- The mass of a mention is taken over from a preparation. -/
def MentionUsage.Inherits (u : MentionUsage) : Prop :=
  ∃ mass, u.mass = some mass ∧ mass.method = .preparation

/-- A mention without an amount has no quantity, or it has a share. -/
theorem Mention.isBare_eq (m : Mention) : m.isBare = (!m.hasQuantity || m.isShare) := by
  unfold isBare hasQuantity isShare
  cases m.quantity with
  | none => rfl
  | some quantity =>
      cases quantity with
      | measured q =>
          simp only [Option.any_some, Quantity.isPresent, Option.not_isSome, Bool.or_false]
      | share s => rfl
      | words text => rfl

variable (weighing : Weighing)

/-- A mention without an amount has the mass of the preparation in the scope, if there is any. -/
theorem mass_of_bare {m : Mention} (hbare : m.isBare) (walk : Walk) :
    (resolveMention weighing m walk).1.mass
      = (walk.scope.weight? (slugify m.name)).map .ofWeight := by
  cases draws_mention weighing hbare walk with
  | mention _ hmass => exact hmass

/-- A mention with an amount inherits nothing: if it has a mass at all, that was converted. -/
theorem not_inherits_of_amount {m : Mention} (hamount : m.isBare = false) (walk : Walk) :
    ¬ (resolveMention weighing m walk).1.Inherits := by
  rintro ⟨mass, hmass, hmethod⟩
  rw [m.isBare_eq_isNone, Option.isNone_eq_false_iff, Option.isSome_iff_exists] at hamount
  rcases hamount with ⟨amount, hamount⟩
  simp only [resolveMention, hamount, Option.bind_eq_some_iff] at hmass
  rcases hmass with ⟨x, -, hconverted⟩
  exact method_of_mass? weighing hconverted hmethod

/-- A mention inherits exactly if it gives no amount and there is a weight in the scope, and then
    that weight is its mass. -/
theorem inherits_iff (m : Mention) (walk : Walk) :
    (resolveMention weighing m walk).1.Inherits
      ↔ m.isBare ∧ (walk.scope.weight? (slugify m.name)).isSome := by
  by_cases hbare : m.isBare
  · rw [MentionUsage.Inherits, mass_of_bare weighing hbare]
    cases walk.scope.weight? (slugify m.name) with
    | none => simp only [Option.map_none, reduceCtorEq, false_and, exists_false, Option.isSome_none,
        Bool.false_eq_true, and_false]
    | some w => exact ⟨fun _ => ⟨hbare, rfl⟩, fun _ => ⟨.ofWeight w, rfl, rfl⟩⟩
  · refine ⟨fun h => absurd h ?_, fun h => absurd h.1 hbare⟩
    exact not_inherits_of_amount weighing (Bool.not_eq_true _ ▸ hbare) walk

/-- A mention of any kind but a share inherits the weight of its preparation exactly if it has no
    quantity and a weight is in the scope, and then its mass is all of it. A mention with a share is
    resolved as if it had no quantity, so it inherits as well. Of the mentions in a document, no
    others inherit anything. -/
theorem mentions_inherit :
    (∀ (m : Mention) (listed : Listed) (walk : Walk),
      let weight := walk.scope.weight? (slugify m.name)
      ∃ u, (resolveItem weighing (.mention m) listed walk).1 = .usage (.mention u)
        ∧ (m.isShare = false → (u.Inherits ↔ m.hasQuantity = false ∧ weight.isSome))
        ∧ (u.Inherits → u.mass = weight.map .ofWeight)
        ∧ (m.isShare → resolveItem weighing (.mention m) listed walk
          = resolveItem weighing (.mention { m with quantity := none }) listed walk))
    ∧ ∀ (blocks : List Block), ∀ p ∈ documentPlaces weighing blocks, ∀ m u,
      p.item = .mention m → p.usage = .mention u → u.Inherits →
        m.hasQuantity = false ∨ m.isShare := by
  constructor
  · intro m listed walk weight
    refine ⟨(resolveMention weighing m walk).1, rfl, fun hshare => ?_, fun hinherits => ?_,
      fun hshare => ?_⟩
    · rw [inherits_iff, m.isBare_eq, hshare, Bool.or_false, Bool.not_eq_true']
    · exact mass_of_bare weighing ((inherits_iff weighing m walk).1 hinherits).1 walk
    · rcases m with ⟨name, _ | _ | _ | _⟩
      · rfl
      · cases hshare
      · rfl
      · cases hshare
  · intro blocks
    refine forall_documentPlaces weighing (P := fun p => ∀ m u, p.item = .mention m →
      p.usage = .mention u → u.Inherits → m.hasQuantity = false ∨ m.isShare)
      (fun v hvalid m u hitem husage hinherits => ?_) blocks
    -- What the mention was resolved to on the visit is the usage at its place.
    have hresolved := hvalid.usage
    rw [hitem, husage] at hresolved
    cases hresolved
    have hbare := ((inherits_iff weighing m v.walk).1 hinherits).1
    rwa [m.isBare_eq, Bool.or_eq_true, Bool.not_eq_true'] at hbare

/-- A dough is mentioned twice, by a word for how much is taken and without any quantity. -/
theorem dough_inherited :
    let weighing : Weighing := ⟨Dictionary.empty, stapleSource⟩
    let walk := Walk.start.inScope (·.setWeight "dough" 500.0 false)
    (∃ u, (resolveItem weighing (.mention ⟨"dough", none⟩) .empty walk).1 = .usage (.mention u)
        ∧ u.Inherits)
      ∧ ∃ u, (resolveItem weighing (.mention ⟨"dough", some (.words "a bit")⟩) .empty walk).1
          = .usage (.mention u)
        ∧ ¬ u.Inherits := by
  intro weighing walk
  rcases (mentions_inherit weighing).1 ⟨"dough", none⟩ .empty walk with ⟨u, hu, hiff, -, -⟩
  rcases (mentions_inherit weighing).1 ⟨"dough", some (.words "a bit")⟩ .empty walk with
    ⟨v, hv, hiff', -, -⟩
  refine ⟨⟨u, hu, (hiff rfl).2 ⟨rfl, by decide +kernel⟩⟩, v, hv, fun h => ?_⟩
  exact Bool.false_ne_true ((hiff' rfl).1 h).1.symm

/-- A dough of which half is mentioned. -/
def halfDough : List Block :=
  [.section ⟨some "Dough", none, some "dough"⟩ [.step ⟨none, [
    .ingredient ⟨"flour", [], some (.measured ⟨some (.single 500.0 none), some "g", false⟩), none,
      none, none⟩]⟩],
  .section ⟨some "Bake", none, none⟩ [.step ⟨none, [
    .mention ⟨"dough", some (.share ⟨50.0, "dough", .preparation⟩)⟩]⟩]]

/-- The mention of one half of the dough has the mass of all of it. -/
theorem halfDough_inherited_whole :
    let weighing : Weighing := ⟨Dictionary.empty, stapleSource⟩
    ∃ p ∈ documentPlaces weighing halfDough, ∃ m u, p.item = .mention m ∧ p.usage = .mention u
      ∧ m.hasQuantity ∧ u.Inherits
      ∧ u.mass = ((finalWalk weighing halfDough).scope.weight? "dough").map .ofWeight := by
  intro weighing
  exact ⟨_, List.mem_cons_of_mem _ List.mem_cons_self, _, _, rfl, rfl, rfl, ⟨_, rfl, rfl⟩, rfl⟩

end Mise
