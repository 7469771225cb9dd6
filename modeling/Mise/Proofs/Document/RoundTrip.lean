import Mise.Document.Encode
import Mise.Proofs.Document.Level

/-!
# Reading What Was Written

A document that is written as data is read back as it was. Every part has its encoder and its
decoder, and each pair is taken on its own: the fields of a record are the declared ones, in their
order and each of them once, and the value of a field is read by the decoder that belongs to its
encoder. An absent value is written as `null`, which no decoder of a present value accepts, so the
two are never mistaken for each other.

The one thing that data have no place for is a number that is infinite or not a number. It is
written as `null` and is lost. All the numbers in a document are listed here, to say that none of
them is of that sort.

## Main definitions

* `Recipe.numbers`: The numbers in a document.
* `AllFinite`: All of these numbers are finite.

## Theorems

* `Block.induction`: Induction on blocks and the blocks inside them.
* `optional_ofOption`, `list_map`: Optional values and lists are read back if their parts are.
* `Figure.ofData?_toData`, `Quantity.ofData?_toData`, `Item.ofData?_toData`,
  `Block.ofData?_toData`: The parts of a document are read back.
* `Dictionary.ofList_entries`: A dictionary is made of its entries.
* `Recipe.read_back`: A document is read back.
-/

namespace Mise

open Decode Data

/-- The numbers of a value that may be absent. -/
def numbersOf {α : Type} (numbers : α → List Float) : Option α → List Float
  | none => []
  | some a => numbers a

/-- The numbers of a metadata value. -/
def MetaValue.numbers : MetaValue → List Float
  | .number x => [x]
  | _ => []

/-- The numbers of a figure. -/
def Figure.numbers : Figure → List Float
  | .single value _ => [value]
  | .fraction value numerator denominator _ => value :: (numerator.toList ++ denominator.toList)
  | .range value bounds _ => value :: numbersOf (fun b => [b.min, b.max]) bounds
  | .words _ => []

/-- The numbers of a measured quantity. -/
def Measured.numbers (m : Measured) : List Float :=
  numbersOf Figure.numbers m.figure

/-- The numbers of a quantity. -/
def Quantity.numbers : Quantity → List Float
  | .measured m => m.numbers
  | .share s => [s.percent]
  | .words _ => []

/-- The numbers of a parent item. -/
def Origin.numbers (o : Origin) : List Float :=
  numbersOf Measured.numbers o.quantity

mutual

/-- The numbers of an item. -/
def Item.numbers : Item → List Float
  | .ingredient i => numbersOf Quantity.numbers i.quantity ++ numbersOf Origin.numbers i.origin
  | .cookware c => numbersOf Quantity.numbers c.quantity
  | .mention m => numbersOf Quantity.numbers m.quantity
  | .alternative options => Item.listNumbers options
  | .timer t => numbersOf Quantity.numbers t.quantity
  | .temperature t => numbersOf Quantity.numbers t.quantity
  | .text _ => []
  | .comment _ => []
  | .declaration _ => []

/-- The numbers of the items of a list. -/
def Item.listNumbers : List Item → List Float
  | [] => []
  | i :: is => i.numbers ++ Item.listNumbers is

end

mutual

/-- The numbers of a block. -/
def Block.numbers : Block → List Float
  | .section _ children => Block.listNumbers children
  | .step s => Item.listNumbers s.items
  | .comment _ => []

/-- The numbers of the blocks of a list. -/
def Block.listNumbers : List Block → List Float
  | [] => []
  | b :: bs => b.numbers ++ Block.listNumbers bs

end

/-- The numbers in a document. -/
def Recipe.numbers (r : Recipe) : List Float :=
  r.info.entries.flatMap (fun e => e.2.numbers) ++ Block.listNumbers r.children

/-- Numbers that are neither infinite nor undefined. -/
def AllFinite (xs : List Float) : Prop :=
  ∀ x ∈ xs, isFiniteNumber x

theorem allFinite_append {xs ys : List Float} :
    AllFinite (xs ++ ys) ↔ AllFinite xs ∧ AllFinite ys :=
  List.forall_mem_append

theorem allFinite_cons {x : Float} {xs : List Float} :
    AllFinite (x :: xs) ↔ isFiniteNumber x ∧ AllFinite xs :=
  List.forall_mem_cons

theorem allFinite_of_some {α : Type} {numbers : α → List Float} {o : Option α}
    (h : AllFinite (numbersOf numbers o)) : ∀ a ∈ o, AllFinite (numbers a) := by
  rintro a rfl
  exact h

theorem Item.allFinite_of_mem {items : List Item} (h : AllFinite (Item.listNumbers items)) :
    ∀ i ∈ items, AllFinite i.numbers := by
  induction items with
  | nil => exact fun i hi => absurd hi List.not_mem_nil
  | cons first rest ih =>
      rw [Item.listNumbers, allFinite_append] at h
      exact List.forall_mem_cons.2 ⟨h.1, ih h.2⟩

theorem Block.allFinite_of_mem {blocks : List Block} (h : AllFinite (Block.listNumbers blocks)) :
    ∀ b ∈ blocks, AllFinite b.numbers := by
  induction blocks with
  | nil => exact fun b hb => absurd hb List.not_mem_nil
  | cons first rest ih =>
      rw [Block.listNumbers, allFinite_append] at h
      exact List.forall_mem_cons.2 ⟨h.1, ih h.2⟩

theorem Item.listToData_eq_map (items : List Item) :
    Item.listToData items = items.map Item.toData := by
  induction items with
  | nil => rfl
  | cons first rest ih => rw [Item.listToData, ih, List.map_cons]

theorem Block.listToData_eq_map (blocks : List Block) :
    Block.listToData blocks = blocks.map Block.toData := by
  induction blocks with
  | nil => rfl
  | cons first rest ih => rw [Block.listToData, ih, List.map_cons]

/-- Induction on blocks: what holds of a section if it holds of the blocks inside, and of steps and
    comments anyway, holds of every block. -/
@[elab_as_elim]
theorem Block.induction {P : Block → Prop}
    (nested : ∀ header children, (∀ child ∈ children, P child) → P (.section header children))
    (step : ∀ s, P (.step s)) (comment : ∀ c, P (.comment c)) (b : Block) : P b := by
  refine @Block.rec P (fun bs => ∀ b ∈ bs, P b) nested step comment ?_ ?_ b
  · exact fun b h => absurd h List.not_mem_nil
  · exact fun first rest hfirst hrest => List.forall_mem_cons.2 ⟨hfirst, hrest⟩

theorem asNumber?_ofNumber {x : Float} (h : isFiniteNumber x) :
    (ofNumber x).asNumber? = some x := by
  rw [ofNumber, if_pos h]
  rfl

/-- An optional value is read back if its reader takes no `null` for a value. -/
theorem optional_ofOption {α : Type} {encode : α → Data} {decode : Data → Option α}
    (hnull : decode .null = none) {o : Option α} (h : ∀ a ∈ o, decode (encode a) = some a) :
    Decode.optional decode (some (ofOption encode o)) = some o := by
  cases o with
  | none => rfl
  | some a =>
      have ha := h a rfl
      have hne : encode a ≠ .null := fun hencode => by
        rw [hencode, hnull] at ha
        exact Option.some_ne_none a ha.symm
      rw [ofOption, Decode.optional, ha, Option.map_some]
      exact hne

theorem optional_text (o : Option String) :
    Decode.optional text? (some (ofOption .text o)) = some o :=
  optional_ofOption rfl fun _ _ => rfl

theorem optional_number {o : Option Float} (h : AllFinite o.toList) :
    Decode.optional Data.asNumber? (some (ofOption ofNumber o)) = some o :=
  optional_ofOption rfl fun x hx => asNumber?_ofNumber (h x (Option.mem_toList.2 hx))

theorem mapM_map_eq {α β : Type} {encode : α → β} {decode : β → Option α} {xs : List α}
    (h : ∀ a ∈ xs, decode (encode a) = some a) : (xs.map encode).mapM decode = some xs := by
  have hread : (xs.map encode).mapM decode = xs.mapM fun a => some (id a) :=
    List.mapM_map.trans (mapM_congr h)
  rw [hread]
  exact List.mapM_pure.trans (congrArg some (List.map_id xs))

/-- A list is read back if its elements are. -/
theorem list_map {α : Type} {encode : α → Data} {decode : Data → Option α} {xs : List α}
    (h : ∀ a ∈ xs, decode (encode a) = some a) :
    list? decode (.list (xs.map encode)) = some xs :=
  mapM_map_eq h

theorem list_texts (texts : List String) : list? text? (ofTexts texts) = some texts :=
  list_map fun _ _ => rfl

theorem MetaValue.ofData?_toData {v : MetaValue} (h : AllFinite v.numbers) :
    MetaValue.ofData? v.toData = some v := by
  cases v with
  | text s => rfl
  | list items => exact congrArg (Option.map MetaValue.list) (list_texts items)
  | number x =>
      rw [MetaValue.toData, ofNumber, if_pos (h x List.mem_cons_self)]
      rfl

theorem Bounds.ofData?_toData {b : Bounds} (h : AllFinite [b.min, b.max]) :
    Bounds.ofData? b.toData = some b := by
  have hmin := asNumber?_ofNumber (h b.min List.mem_cons_self)
  have hmax := asNumber?_ofNumber (h b.max (List.mem_cons_of_mem _ List.mem_cons_self))
  change (do return Bounds.mk (← (ofNumber b.min).asNumber?) (← (ofNumber b.max).asNumber?)) = _
  rw [hmin, hmax]
  rfl

/-- A figure is read back. -/
theorem Figure.ofData?_toData {f : Figure} (h : AllFinite f.numbers) (inside : Bool) :
    Figure.ofData? inside f.toData = some f := by
  -- The kind of a figure is read first, and it says which fields there are to read.
  cases f with
  | single value text =>
      have hvalue := asNumber?_ofNumber (h value List.mem_cons_self)
      change (do
        return Figure.single (← (ofNumber value).asNumber?)
          (← Decode.optional text? (some (ofOption .text text)))) = _
      rw [hvalue, optional_text]
      rfl
  | fraction value numerator denominator text =>
      rcases allFinite_cons.1 h with ⟨hfinite, hparts⟩
      rcases allFinite_append.1 hparts with ⟨hnumerator, hdenominator⟩
      have hvalue := asNumber?_ofNumber hfinite
      change (do
        return Figure.fraction (← (ofNumber value).asNumber?)
          (← Decode.optional Data.asNumber? (some (ofOption ofNumber numerator)))
          (← Decode.optional Data.asNumber? (some (ofOption ofNumber denominator)))
          (← Decode.optional text? (some (ofOption .text text)))) = _
      rw [hvalue, optional_number hnumerator, optional_number hdenominator, optional_text]
      rfl
  | range value bounds text =>
      rcases allFinite_cons.1 h with ⟨hfinite, hparts⟩
      have hvalue := asNumber?_ofNumber hfinite
      have hbounds : Decode.optional Bounds.ofData? (some (ofOption Bounds.toData bounds))
          = some bounds :=
        optional_ofOption rfl fun b hb => Bounds.ofData?_toData (allFinite_of_some hparts b hb)
      change (do
        return Figure.range (← (ofNumber value).asNumber?)
          (← Decode.optional Bounds.ofData? (some (ofOption Bounds.toData bounds)))
          (← Decode.optional text? (some (ofOption .text text)))) = _
      rw [hvalue, hbounds, optional_text]
      rfl
  | words text => rfl

theorem Measured.ofData?_fields {m : Measured} (h : AllFinite m.numbers) :
    Measured.ofData? (.record m.fields) = some m := by
  have hfigure : Decode.optional (Figure.ofData? true)
      (some (ofOption Figure.toData m.figure)) = some m.figure :=
    optional_ofOption rfl fun f hf => Figure.ofData?_toData (allFinite_of_some h f hf) true
  change (do
    return Measured.mk
      (← Decode.optional (Figure.ofData? true) (some (ofOption Figure.toData m.figure)))
      (← Decode.optional text? (some (ofOption .text m.unit))) m.fixed) = _
  rw [hfigure, optional_text]
  rfl

theorem ShareOf.word_name (of : ShareOf) :
    word? [("variable", ShareOf.preparation), ("ingredient", .ingredient)] (.text of.name)
      = some of := by
  cases of <;> rfl

theorem CommentKind.word_name (kind : CommentKind) :
    word? [("line", CommentKind.line), ("block", .block)] (.text kind.name) = some kind := by
  cases kind <;> rfl

/-- A quantity is read back. -/
theorem Quantity.ofData?_toData {q : Quantity} (h : AllFinite q.numbers) (inside : Bool) :
    Quantity.ofData? inside q.toData = some q := by
  cases q with
  | measured m =>
      change (Measured.ofData? (.record m.fields)).map Quantity.measured = _
      rw [Measured.ofData?_fields h]
      rfl
  | share s =>
      have hpercent := asNumber?_ofNumber (h s.percent List.mem_cons_self)
      change (do
        return Share.mk (← (ofNumber s.percent).asNumber?) s.target
          (← word? [("variable", ShareOf.preparation), ("ingredient", .ingredient)]
          (.text s.of.name))).map Quantity.share = _
      rw [hpercent, ShareOf.word_name]
      rfl
  | words text => rfl

theorem optional_quantity {o : Option Quantity} (h : AllFinite (numbersOf Quantity.numbers o)) :
    Decode.optional (Quantity.ofData? true) (some (ofOption Quantity.toData o)) = some o :=
  optional_ofOption rfl fun q hq => Quantity.ofData?_toData (allFinite_of_some h q hq) true

theorem Origin.ofData?_toData {o : Origin} (h : AllFinite o.numbers) :
    Origin.ofData? o.toData = some o := by
  have hquantity : Decode.optional Measured.ofData?
      (some (ofOption (fun m => .record m.fields) o.quantity)) = some o.quantity :=
    optional_ofOption rfl fun m hm => Measured.ofData?_fields (allFinite_of_some h m hm)
  change (do
    return Origin.mk o.parent (← Decode.optional Measured.ofData?
      (some (ofOption (fun m : Measured => .record m.fields) o.quantity)))) = _
  rw [hquantity]
  rfl

theorem Comment.ofData?_fields (c : Comment) : Comment.ofData? (.record c.fields) = some c := by
  change (do
    return Comment.mk c.value
      (← word? [("line", CommentKind.line), ("block", .block)] (.text c.kind.name))) = _
  rw [CommentKind.word_name]
  rfl

theorem IngredientItem.ofData?_toData {i : IngredientItem}
    (h : AllFinite (Item.ingredient i).numbers) (level : Nat) :
    Item.ofData? (level + 1) (Item.ingredient i).toData = some (.ingredient i) := by
  rw [Item.numbers, allFinite_append] at h
  have horigin : Decode.optional Origin.ofData? (some (ofOption Origin.toData i.origin))
      = some i.origin :=
    optional_ofOption rfl fun o ho => Origin.ofData?_toData (allFinite_of_some h.2 o ho)
  change (do
    return IngredientItem.mk i.name (← list? text? (ofTexts i.modifiers))
      (← Decode.optional (Quantity.ofData? true) (some (ofOption Quantity.toData i.quantity)))
      (← Decode.optional text? (some (ofOption .text i.nickname)))
      (← Decode.optional text? (some (ofOption .text i.preparation)))
      (← Decode.optional Origin.ofData? (some (ofOption Origin.toData i.origin)))).map
      Item.ingredient = _
  rw [list_texts, optional_quantity h.1, optional_text, optional_text, horigin]
  rfl

theorem CookwareItem.ofData?_toData {c : CookwareItem}
    (h : AllFinite (Item.cookware c).numbers) (level : Nat) :
    Item.ofData? (level + 1) (Item.cookware c).toData = some (.cookware c) := by
  change (do
    return CookwareItem.mk c.name (← list? text? (ofTexts c.modifiers))
      (← Decode.optional text? (some (ofOption .text c.nickname)))
      (← Decode.optional (Quantity.ofData? true) (some (ofOption Quantity.toData c.quantity)))
      (← Decode.optional text? (some (ofOption .text c.preparation)))).map Item.cookware = _
  rw [list_texts, optional_text, optional_quantity h, optional_text]
  rfl

/-- An item is read back. -/
theorem Item.ofData?_toData {i : Item} (h : AllFinite i.numbers) {level : Nat}
    (hlevel : i.toData.depth ≤ level) : Item.ofData? level i.toData = some i := by
  induction i using Item.induction generalizing level with
  | single i hsingle =>
      cases level with
      | zero => exact absurd hlevel (Nat.not_le_of_lt i.toData.depth_pos)
      | succ level =>
          cases i with
          | ingredient i => exact IngredientItem.ofData?_toData h level
          | cookware c => exact CookwareItem.ofData?_toData h level
          | mention m =>
              change (do
                return Mention.mk m.name (← Decode.optional (Quantity.ofData? true)
                  (some (ofOption Quantity.toData m.quantity)))).map Item.mention = _
              rw [optional_quantity h]
              rfl
          | alternative options => exact absurd rfl (hsingle options)
          | timer t =>
              change (do
                return TimerItem.mk
                  (← Decode.optional text? (some (ofOption .text t.name)))
                  (← Decode.optional (Quantity.ofData? true)
                  (some (ofOption Quantity.toData t.quantity))) t.background).map Item.timer = _
              rw [optional_text, optional_quantity h]
              rfl
          | temperature t =>
              change (do
                return TemperatureItem.mk
                  (← Decode.optional text? (some (ofOption .text t.name)))
                  (← Decode.optional (Quantity.ofData? true)
                  (some (ofOption Quantity.toData t.quantity)))).map Item.temperature = _
              rw [optional_text, optional_quantity h]
              rfl
          | text s => rfl
          | comment c =>
              change (Comment.ofData? (.record c.fields)).map Item.comment = _
              rw [Comment.ofData?_fields]
              rfl
          | declaration name => rfl
  | alternative options ih =>
      have hfinite := Item.allFinite_of_mem h
      rw [Item.toData, Item.listToData_eq_map] at hlevel ⊢
      cases level with
      | zero => exact absurd hlevel (Nat.not_le_of_lt (Data.depth_pos _))
      | succ level =>
          -- The data of an option lie deeper than those of the alternative.
          have hoptions : list? (Item.ofData? level) (.list (options.map Item.toData))
              = some options := by
            refine list_map fun option hmem => ih option hmem (hfinite option hmem) ?_
            exact Data.depth_of_mem_last [_] _ hlevel (List.mem_map_of_mem hmem)
          change (list? (Item.ofData? level) (.list (options.map Item.toData))).map
            Item.alternative = _
          rw [hoptions]
          rfl

/-- A block is read back. -/
theorem Block.ofData?_toData {b : Block} (h : AllFinite b.numbers) {inside : Bool} {level : Nat}
    (hlevel : b.toData.depth ≤ level) : Block.ofData? inside level b.toData = some b := by
  induction b using Block.induction generalizing inside level with
  | nested header children ih =>
      have hfinite := Block.allFinite_of_mem h
      rw [Block.toData, Block.listToData_eq_map] at hlevel ⊢
      cases level with
      | zero => exact absurd hlevel (Nat.not_le_of_lt (Data.depth_pos _))
      | succ level =>
          have hproduces : Decode.optional declarationOfData?
              (some (ofOption declarationData header.produces)) = some header.produces :=
            optional_ofOption rfl fun _ _ => rfl
          have hchildren : list? (Block.ofData? true level) (.list (children.map Block.toData))
              = some children := by
            refine list_map fun child hmem => ih child hmem (hfinite child hmem) ?_
            exact Data.depth_of_mem_last [_, _, _, _] _ hlevel (List.mem_map_of_mem hmem)
          change (do
            let read : SectionHeader := {
              title := ← Decode.optional text? (some (ofOption .text header.title))
              retroPlanning := ← Decode.optional text? (some (ofOption .text header.retroPlanning))
              produces := ← Decode.optional declarationOfData?
                (some (ofOption declarationData header.produces)) }
            return Block.section read
              (← list? (Block.ofData? true level) (.list (children.map Block.toData)))) = _
          rw [optional_text, optional_text, hproduces, hchildren]
          rfl
  | step s =>
      have hfinite := Item.allFinite_of_mem h
      rw [Block.toData, Item.listToData_eq_map] at hlevel ⊢
      cases level with
      | zero => exact absurd hlevel (Nat.not_le_of_lt (Data.depth_pos _))
      | succ level =>
          have hitems : list? (Item.ofData? level) (.list (s.items.map Item.toData))
              = some s.items := by
            refine list_map fun item hmem => Item.ofData?_toData (hfinite item hmem) ?_
            exact Data.depth_of_mem_last [_, _] _ hlevel (List.mem_map_of_mem hmem)
          change (do
            return Block.step ⟨← Decode.optional text? (some (ofOption .text s.action)),
              ← list? (Item.ofData? level) (.list (s.items.map Item.toData))⟩) = _
          rw [optional_text, hitems]
          rfl
  | comment c =>
      cases level with
      | zero => exact absurd hlevel (Nat.not_le_of_lt (Data.depth_pos _))
      | succ level =>
          change (Comment.ofData? (.record c.fields)).map Block.comment = _
          rw [Comment.ofData?_fields]
          rfl

/-- A dictionary is made of its entries. -/
theorem Dictionary.ofList_entries {α : Type} (d : Dictionary α) :
    Dictionary.ofList d.entries = d :=
  Dictionary.ext_get? fun key => (Dictionary.get?_overlay empty d key).trans Option.or_none

/-- Metadata are read back. -/
theorem metaOfData?_metaData {info : Meta}
    (h : AllFinite (info.entries.flatMap fun e => e.2.numbers)) :
    metaOfData? (metaData info) = some info := by
  have hentries : (info.entries.map fun e => (e.1, e.2.toData)).mapM
      (fun f => (MetaValue.ofData? f.2).map fun v => (f.1, v)) = some info.entries := by
    refine mapM_map_eq fun e he => ?_
    rw [MetaValue.ofData?_toData fun x hx => h x (List.mem_flatMap.2 ⟨e, he, hx⟩)]
    rfl
  rw [metaData, metaOfData?, hentries, Option.map_some, Dictionary.ofList_entries]

theorem Recipe.ofData?_toData {r : Recipe} (h : AllFinite r.numbers) :
    Recipe.ofData? r.toData = some r := by
  rw [Recipe.numbers, allFinite_append] at h
  have hfinite := Block.allFinite_of_mem h.2
  have hlevel : (Data.record ([("type", .text r.kind), ("meta", metaData r.info)]
      ++ [("children", .list (r.children.map Block.toData))])).depth ≤ r.toData.depth + 1 := by
    rw [Recipe.toData, Block.listToData_eq_map]
    exact Nat.le_succ _
  have hchildren : list? (Block.ofData? false r.toData.depth)
      (.list (Block.listToData r.children)) = some r.children := by
    rw [Block.listToData_eq_map]
    refine list_map fun child hmem => Block.ofData?_toData (hfinite child hmem) ?_
    exact Data.depth_of_mem_last _ _ hlevel (List.mem_map_of_mem hmem)
  change (do
    return Recipe.mk r.kind (← metaOfData? (metaData r.info))
      (← list? (Block.ofData? false r.toData.depth) (.list (Block.listToData r.children)))) = _
  rw [metaOfData?_metaData h.1, hchildren]
  rfl

/-- The data of a document written anew. -/
def Recipe.rewritten? (d : Data) : Option Data :=
  (Recipe.ofData? d).map Recipe.toData

/-- A document without infinite or undefined numbers is read back from its data as it was. So data
    that are read as such a document can be written anew, and after that they do not change any
    more. -/
theorem Recipe.read_back {r : Recipe} (h : AllFinite r.numbers) :
    Recipe.ofData? r.toData = some r
      ∧ ∀ d, Recipe.ofData? d = some r →
          Recipe.rewritten? d = some r.toData ∧ Recipe.rewritten? r.toData = some r.toData := by
  have hread := Recipe.ofData?_toData h
  refine ⟨hread, fun d hd => ⟨?_, ?_⟩⟩
  · rw [Recipe.rewritten?, hd, Option.map_some]
  · rw [Recipe.rewritten?, hread, Option.map_some]

/-- A dressing with a choice inside a choice, a range, a fraction, a share and a part of an egg. -/
def dressingRecipe : Recipe where
  kind := recipeKind
  info := Dictionary.ofList [("servings", .number 4.0), ("densities", .list ["oil: 0.9", ""]),
    ("title", .text "Dressing")]
  children := [
    .section ⟨some "Base", none, some "base"⟩ [
      .step ⟨some "Whisk", [
        .alternative [
          .ingredient ⟨"oil", ["?"], some (.measured ⟨some (.range 2.5 (some ⟨2.0, 3.0⟩)
            (some "2-3")), some "tbsp", true⟩), some "olive oil", none, none⟩,
          .alternative [.cookware ⟨"jar", [], none, some (.words "a small one"), none⟩]],
        .ingredient ⟨"yolk", [], some (.measured ⟨some (.fraction 0.5 (some 1.0) (some 2.0) none),
          none, false⟩), none, some "beaten", some ⟨"egg", some ⟨none, none, false⟩⟩⟩,
        .text " until smooth ", .comment ⟨"or longer", .block⟩, .declaration "emulsion"]⟩,
      .section ⟨none, none, none⟩ [.comment ⟨"nested", .line⟩]],
    .step ⟨none, [
      .ingredient ⟨"salt", [], some (.share ⟨-0.0, "base", .preparation⟩), none, none, none⟩,
      .mention ⟨"base", none⟩, .timer ⟨none, some (.words "a while"), true⟩,
      .temperature ⟨some "room", none⟩]⟩]

theorem dressing_read_back :
    AllFinite dressingRecipe.numbers
      ∧ Recipe.ofData? dressingRecipe.toData = some dressingRecipe := by
  have hfinite : AllFinite dressingRecipe.numbers := by
    have hnumbers : dressingRecipe.numbers.all isFiniteNumber = true := rfl
    exact List.all_eq_true.1 hnumbers
  exact ⟨hfinite, (Recipe.read_back hfinite).1⟩

end Mise
