import Mise.Proofs.Text.Spacing
import Mise.Resolution

/-!
# Identities

An identity is one word of small letters and digits or several, with one dash between each two of
them. It is read off a name in one go, with a dash held back until the next letter or digit comes.
What this amounts to can be said without the going: the name is parted wherever it has anything but
letters and digits, the parts that are left with something in them are the words, and the words are
joined. A name without any word has the one of an unknown identity.

So an identity is its own identity, because its parts are its words, and nothing else is. It finds
what the name itself finds: an override, a weighed preparation, the ingredients that a share is
taken of.

The form of identities does not depend on how characters beyond ASCII are spelled. A spelling may
begin and end with any number of separators, or consist of them. It matters only that ASCII
characters spell themselves, or else an identity could be spelled as something else.

## Main definitions

* `IsSlugWord`, `IsIdentity`: The form of identities.
* `slugWords`: The words of a text that is spelled in ASCII.
* `slugWith`: The identity of a name under a given spelling of characters.
* `KeepsAscii`: A spelling under which ASCII characters spell themselves.

## Theorems

* `slugChars_eq_join`: A slug is the words of the text with dashes in between.
* `slugWords_join`: The words can be read off a slug.
* `isIdentity_slugWith`: Whatever a name is, its identity has the form of one.
* `slugWith_eq_self_iff`: The identities are the names that are their own.
* `identities_settled`: Identities of names, and what is found under them.
-/

namespace Mise

/-- The small letters and the digits of ASCII. -/
def IsSlugLetter (c : Char) : Prop :=
  ('a' ≤ c ∧ c ≤ 'z') ∨ ('0' ≤ c ∧ c ≤ '9')

instance (c : Char) : Decidable (IsSlugLetter c) :=
  inferInstanceAs (Decidable (_ ∨ _))

/-- A word of an identity. -/
structure IsSlugWord (word : List Char) : Prop where
  ne_nil : word ≠ []
  letters : ∀ c ∈ word, IsSlugLetter c

/-- One word or several, with one dash between each two of them and none at either end. -/
structure IsIdentity (s : String) : Prop where
  ne_empty : s ≠ ""
  joined : ∃ words, (∀ word ∈ words, IsSlugWord word) ∧ s.toList = ['-'].intercalate words
  start : ∀ c ∈ s.toList.head?, IsSlugLetter c
  finish : ∀ c ∈ s.toList.getLast?, IsSlugLetter c

section Letters

theorem isAlphanum_iff (c : Char) : c.isAlphanum ↔ ('A' ≤ c ∧ c ≤ 'Z') ∨ IsSlugLetter c := by
  have hranges : c.isAlphanum = (decide ('A' ≤ c ∧ c ≤ 'Z') || ('a' ≤ c && c ≤ 'z')
      || ('0' ≤ c && c ≤ '9')) := rfl
  rw [hranges]
  simp only [Bool.or_eq_true, Bool.and_eq_true, decide_eq_true_eq, or_assoc]
  rfl

theorem IsSlugLetter.toNat_range {c : Char} (h : IsSlugLetter c) :
    (97 ≤ c.toNat ∧ c.toNat ≤ 122) ∨ (48 ≤ c.toNat ∧ c.toNat ≤ 57) :=
  h

theorem toNat_toLower_of_capital {c : Char} (h : 'A' ≤ c ∧ c ≤ 'Z') :
    c.toLower.toNat = c.toNat + 32 := by
  have hlower : c.toLower.val = c.val + 32 := congrArg Char.val (dif_pos h)
  have hrange : 65 ≤ c.val.toNat ∧ c.val.toNat ≤ 90 := h
  have hnat : (32 : UInt32).toNat = 32 := rfl
  rw [Char.toNat, Char.toNat, hlower, UInt32.toNat_add]
  omega

/-- What a slug keeps of a character is a small letter or a digit. -/
theorem isSlugLetter_of_kept {c k : Char} (h : slugLetter? c = some k) : IsSlugLetter k := by
  rw [slugLetter?] at h
  split at h
  · next hc =>
    rw [← Option.some.inj h]
    by_cases hcapital : 'A' ≤ c ∧ c ≤ 'Z'
    · have hrange : 65 ≤ c.toNat ∧ c.toNat ≤ 90 := hcapital
      have hlower : 97 ≤ c.toLower.toNat ∧ c.toLower.toNat ≤ 122 := by
        rw [toNat_toLower_of_capital hcapital]
        omega
      exact Or.inl hlower
    · have hself : c.toLower = c := dif_neg hcapital
      rw [hself]
      exact ((isAlphanum_iff c).1 hc).resolve_left hcapital
  · cases h

/-- A slug keeps small letters and digits as they are. -/
theorem IsSlugLetter.kept {c : Char} (h : IsSlugLetter c) : slugLetter? c = some c := by
  have hcapital : ¬ ('A' ≤ c ∧ c ≤ 'Z') := by
    rintro ⟨hle, hge⟩
    have hrange : 65 ≤ c.toNat ∧ c.toNat ≤ 90 := ⟨hle, hge⟩
    have := h.toNat_range
    omega
  have hself : c.toLower = c := dif_neg hcapital
  rw [slugLetter?, if_pos ((isAlphanum_iff c).2 (Or.inr h)), hself]

end Letters

section Words

/-- A character between the words of a slug. -/
def isSlugGap (c : Char) : Bool :=
  (slugLetter? c).isNone

/-- The parts with something in them, in lower case. -/
def slugParts (parts : List (List Char)) : List (List Char) :=
  (parts.filter fun part => !part.isEmpty).map (List.filterMap slugLetter?)

/-- The words of a text that is spelled in ASCII. -/
def slugWords (cs : List Char) : List (List Char) :=
  slugParts (Text.partsAt isSlugGap cs)

/-- Words, each with a dash in front of it. -/
def dashed (words : List (List Char)) : List Char :=
  words.flatMap ('-' :: ·)

theorem intercalate_cons_dashed (word : List Char) (words : List (List Char)) :
    ['-'].intercalate (word :: words) = word ++ dashed words := by
  induction words generalizing word with
  | nil => rw [List.intercalate_singleton, dashed, List.flatMap_nil, List.append_nil]
  | cons next words ih =>
      have hnext : dashed (next :: words) = ['-'] ++ (next ++ dashed words) := List.flatMap_cons
      rw [List.intercalate_cons_cons, ih, hnext, List.append_assoc]

variable {c : Char} {cs : List Char}

theorem slugChars_cons_gap (h : slugLetter? c = none) (started pending : Bool) :
    slugChars (c :: cs) started pending = slugChars cs started true := by
  rw [slugChars, h]

theorem slugChars_cons_kept {k : Char} (h : slugLetter? c = some k) (started pending : Bool) :
    slugChars (c :: cs) started pending
      = (if started && pending then ['-', k] else [k]) ++ slugChars cs true false := by
  rw [slugChars, h]

theorem partsAt_cons_gap (h : slugLetter? c = none) :
    Text.partsAt isSlugGap (c :: cs) = [] :: Text.partsAt isSlugGap cs := by
  rw [Text.partsAt, isSlugGap, h]
  rfl

theorem partsAt_cons_kept {k : Char} (h : slugLetter? c = some k) {first : List Char}
    {rest : List (List Char)} (hparts : Text.partsAt isSlugGap cs = first :: rest) :
    Text.partsAt isSlugGap (c :: cs) = (c :: first) :: rest := by
  rw [Text.partsAt, hparts, isSlugGap, h]
  rfl

theorem slugParts_cons_kept {k : Char} (h : slugLetter? c = some k) (part : List Char)
    (parts : List (List Char)) :
    slugParts ((c :: part) :: parts) = (k :: part.filterMap slugLetter?) :: slugParts parts :=
  congrArg (· :: slugParts parts) (List.filterMap_cons_some h)

/-- After its first letter, a slug goes on with the rest of the word and the words to come, each
    after a dash. If a separator has been met, the word is over. -/
theorem slugChars_started {first : List Char} {rest : List (List Char)}
    (hparts : Text.partsAt isSlugGap cs = first :: rest) :
    slugChars cs true false = first.filterMap slugLetter? ++ dashed (slugParts rest)
      ∧ slugChars cs true true = dashed (slugParts (first :: rest)) := by
  induction cs generalizing first rest with
  | nil =>
      cases hparts
      exact ⟨rfl, rfl⟩
  | cons c cs ih =>
      rcases List.exists_cons_of_ne_nil (Text.partsAt_ne_nil isSlugGap cs) with ⟨next, more, hmore⟩
      rcases ih hmore with ⟨hword, hwords⟩
      cases hletter : slugLetter? c with
      | none =>
          -- The word is over, and a dash is pending in either case.
          rw [partsAt_cons_gap hletter, hmore] at hparts
          cases hparts
          rw [slugChars_cons_gap hletter, slugChars_cons_gap hletter, hwords]
          exact ⟨rfl, rfl⟩
      | some k =>
          -- The letter is written, after the pending dash if there is one, and none is left.
          rw [partsAt_cons_kept hletter hmore] at hparts
          cases hparts
          rw [slugChars_cons_kept hletter, slugChars_cons_kept hletter, hword,
            slugParts_cons_kept hletter, List.filterMap_cons_some hletter]
          exact ⟨rfl, rfl⟩

/-- A slug is the words of the text with a dash between each two of them. -/
theorem slugChars_eq_join (cs : List Char) (pending : Bool) :
    slugChars cs false pending = ['-'].intercalate (slugWords cs) := by
  induction cs generalizing pending with
  | nil => rfl
  | cons c cs ih =>
      cases hletter : slugLetter? c with
      | none =>
          rw [slugChars_cons_gap hletter, ih, slugWords, slugWords, partsAt_cons_gap hletter]
          rfl
      | some k =>
          rcases List.exists_cons_of_ne_nil (Text.partsAt_ne_nil isSlugGap cs) with
            ⟨first, rest, hparts⟩
          rw [slugChars_cons_kept hletter, (slugChars_started hparts).1, slugWords,
            partsAt_cons_kept hletter hparts, slugParts_cons_kept hletter, intercalate_cons_dashed]
          rfl

/-- The words of a text are words of slugs. -/
theorem isSlugWord_of_mem {word : List Char} (h : word ∈ slugWords cs) : IsSlugWord word := by
  rcases List.mem_map.1 h with ⟨part, hmem, rfl⟩
  rcases List.mem_filter.1 hmem with ⟨hpart, hne⟩
  constructor
  · cases part with
    | nil => cases hne
    | cons c part =>
        have hgap := Text.forall_not_of_mem_partsAt hpart c List.mem_cons_self
        rw [isSlugGap, Option.isNone_iff_eq_none] at hgap
        rcases Option.ne_none_iff_exists'.1 hgap with ⟨k, hletter⟩
        rw [List.filterMap_cons_some hletter]
        exact List.cons_ne_nil k _
  · intro k hk
    rcases List.mem_filterMap.1 hk with ⟨c, -, hletter⟩
    exact isSlugLetter_of_kept hletter

theorem slugWords_append (as bs : List Char) :
    slugWords (as ++ '-' :: bs) = slugWords as ++ slugWords bs := by
  rw [slugWords, Text.partsAt_append rfl, slugParts, List.filter_append, List.map_append]
  rfl

theorem slugWords_word {word : List Char} (h : IsSlugWord word) : slugWords word = [word] := by
  have hparts : Text.partsAt isSlugGap word = [word] :=
    Text.partsAt_of_forall_not fun c hc hgap => by
      rw [isSlugGap, (h.letters c hc).kept] at hgap
      cases hgap
  have hkept : word.filterMap slugLetter? = word := by
    rw [List.filterMap_congr fun c hc => (h.letters c hc).kept, List.filterMap_some]
  have hne : [word].filter (fun part => !part.isEmpty) = [word] := by
    refine List.filter_eq_self.2 fun part hpart => ?_
    rw [List.mem_singleton.1 hpart, Bool.not_eq_true', List.isEmpty_eq_false_iff]
    exact h.ne_nil
  rw [slugWords, hparts, slugParts, hne, List.map_singleton, hkept]

/-- The words can be read off a slug. -/
theorem slugWords_join {words : List (List Char)} (h : ∀ word ∈ words, IsSlugWord word) :
    slugWords (['-'].intercalate words) = words := by
  induction words with
  | nil => rfl
  | cons word words ih =>
      have hword := slugWords_word (h word List.mem_cons_self)
      cases words with
      | nil => rw [List.intercalate_singleton, hword]
      | cons next rest =>
          rw [List.intercalate_cons_cons, List.append_assoc, List.singleton_append,
            slugWords_append, hword, ih fun other hmem => h other (List.mem_cons_of_mem word hmem),
            List.singleton_append]

end Words

section Form

/-- Words with a dash between each two of them have the form of an identity. -/
theorem isIdentity_of_words {s : String} {words : List (List Char)} (hne : words ≠ [])
    (hwords : ∀ word ∈ words, IsSlugWord word) (hs : s.toList = ['-'].intercalate words) :
    IsIdentity s where
  ne_empty := by
    rintro rfl
    rcases List.exists_cons_of_ne_nil hne with ⟨word, rest, rfl⟩
    exact Text.intercalate_ne_nil (hwords word List.mem_cons_self).ne_nil rest hs.symm
  joined := ⟨words, hwords, hs⟩
  start c hc := by
    rcases List.exists_cons_of_ne_nil hne with ⟨word, rest, rfl⟩
    have hword := hwords word List.mem_cons_self
    rw [hs, intercalate_cons_dashed, List.head?_append_of_ne_nil _ hword.ne_nil] at hc
    exact hword.letters c (List.mem_of_mem_head? hc)
  finish c hc := by
    rcases List.eq_nil_or_concat' words with rfl | ⟨init, word, rfl⟩
    · exact absurd rfl hne
    · have hword := hwords word (List.mem_append_right init List.mem_cons_self)
      rw [hs, Text.getLast?_intercalate hword.ne_nil] at hc
      exact hword.letters c (List.mem_of_mem_getLast? hc)

/-- The words of an identity: those of the text, or that of an unknown identity. -/
def identityWords (cs : List Char) : List (List Char) :=
  match slugWords cs with
  | [] => [unknownIdentity.toList]
  | word :: words => word :: words

theorem identityWords_ne_nil (cs : List Char) : identityWords cs ≠ [] := by
  rw [identityWords]
  split <;> exact List.cons_ne_nil _ _

theorem isSlugWord_unknown : IsSlugWord unknownIdentity.toList where
  ne_nil := by decide
  letters c hc := by
    have hall : unknownIdentity.toList.all fun c => IsSlugLetter c := by decide
    exact of_decide_eq_true (List.all_eq_true.1 hall c hc)

theorem isSlugWord_of_mem_identityWords {cs word : List Char} (h : word ∈ identityWords cs) :
    IsSlugWord word := by
  rw [identityWords] at h
  split at h
  · rw [List.mem_singleton.1 h]
    exact isSlugWord_unknown
  · next hwords =>
    rw [← hwords] at h
    exact isSlugWord_of_mem h

end Form

section Spelling

/-- A name with every character spelled. -/
def spelled (spell : Char → String) (name : String) : List Char :=
  name.toList.flatMap fun c => (spell c).toList

/-- The identity of a name under a given spelling of characters. -/
def slugWith (spell : Char → String) (name : String) : String :=
  match slugChars (spelled spell name) false false with
  | [] => unknownIdentity
  | cs => String.ofList cs

/-- ASCII characters spell themselves. -/
def KeepsAscii (spell : Char → String) : Prop :=
  ∀ c : Char, c.toNat < 0x80 → spell c = c.toString

theorem slugify_eq_slugWith : slugify = slugWith Transliteration.transliterate := rfl

theorem keepsAscii_transliterate : KeepsAscii Transliteration.transliterate :=
  fun _ h => Transliteration.transliterate_ascii h

variable {spell : Char → String}

/-- An identity is the words of the name as it is spelled, with a dash between each two of them. -/
theorem toList_slugWith (spell : Char → String) (name : String) :
    (slugWith spell name).toList = ['-'].intercalate (identityWords (spelled spell name)) := by
  rw [slugWith, slugChars_eq_join, identityWords]
  cases hwords : slugWords (spelled spell name) with
  | nil => exact List.intercalate_singleton.symm
  | cons word words =>
      have hword : IsSlugWord word := isSlugWord_of_mem (hwords ▸ List.mem_cons_self)
      split
      · next hnil => exact absurd hnil (Text.intercalate_ne_nil hword.ne_nil words)
      · exact String.toList_ofList

/-- Whatever a name is, its identity has the form of one. -/
theorem isIdentity_slugWith (spell : Char → String) (name : String) :
    IsIdentity (slugWith spell name) :=
  isIdentity_of_words (identityWords_ne_nil _) (fun _ => isSlugWord_of_mem_identityWords)
    (toList_slugWith spell name)

theorem spelled_eq_self (hspell : KeepsAscii spell) {name : String}
    (hascii : ∀ c ∈ name.toList, c.toNat < 0x80) : spelled spell name = name.toList := by
  have hself : ∀ c ∈ name.toList, (spell c).toList = [c] := fun c hc => by
    rw [hspell c (hascii c hc)]
    exact String.toList_ofList
  rw [spelled, List.flatMap_congr hself]
  exact List.flatMap_singleton' name.toList

theorem IsIdentity.ascii {s : String} (h : IsIdentity s) : ∀ c ∈ s.toList, c.toNat < 0x80 := by
  rcases h.joined with ⟨words, hwords, hs⟩
  intro c hc
  rw [hs] at hc
  rcases Text.mem_intercalate hc with hdash | ⟨word, hword, hmem⟩
  · rw [List.mem_singleton.1 hdash]
    decide
  · have := ((hwords word hword).letters c hmem).toNat_range
    omega

/-- An identity is its own. -/
theorem slugWith_of_isIdentity (hspell : KeepsAscii spell) {s : String} (h : IsIdentity s) :
    slugWith spell s = s := by
  rcases h.joined with ⟨words, hwords, hs⟩
  rw [← String.toList_inj, toList_slugWith, spelled_eq_self hspell h.ascii, identityWords, hs,
    slugWords_join hwords]
  cases words with
  | nil => exact absurd (String.toList_eq_nil_iff.1 hs) h.ne_empty
  | cons word words =>
      -- There is a word, so the one of an unknown identity is not needed.
      rfl

/-- The identities are the names that are their own. -/
theorem slugWith_eq_self_iff (hspell : KeepsAscii spell) (name : String) :
    slugWith spell name = name ↔ IsIdentity name := by
  constructor
  · intro hself
    rw [← hself]
    exact isIdentity_slugWith spell name
  · exact slugWith_of_isIdentity hspell

end Spelling

section Lookup

theorem slugify_slugify (name : String) : slugify (slugify name) = slugify name := by
  rw [slugify_eq_slugWith]
  exact slugWith_of_isIdentity keepsAscii_transliterate (isIdentity_slugWith _ name)

/-- A share of an identity is taken of what a share of the name is taken of. -/
theorem toOption_shareBase_slugify (percent : Float) (name : String) (of : ShareOf) (item : String)
    (listed : Listed) (scope : Scope) :
    (shareBase ⟨percent, slugify name, of⟩ item listed scope).toOption
      = (shareBase ⟨percent, name, of⟩ item listed scope).toOption := by
  cases of with
  | preparation =>
      simp only [shareBase, slugify_slugify]
      cases scope.weight? (slugify name) <;> rfl
  | ingredient =>
      simp only [shareBase, slugify_slugify]
      -- The warnings have the target as it is written, so only what is found is the same.
      split
      · rfl
      · split <;> rfl

end Lookup

/-- The identity of a name is one word of small letters and digits or several, with one dash between
    each two of them and none at either end. It is its own identity, as are all names of this form
    and no others. Looked up in place of the name, it finds the same override, and the same weight
    or the same ingredients to take a share of. Identities have this form and are their own under
    any spelling of characters that lets ASCII characters spell themselves, whatever it makes of the
    others. -/
theorem identities_settled (name : String) :
    IsIdentity (slugify name)
      ∧ slugify (slugify name) = slugify name
      ∧ (slugify name = name ↔ IsIdentity name)
      ∧ (∀ o : Overrides, o.of? (slugify name) = o.of? name)
      ∧ (∀ percent of item listed scope,
          (shareBase ⟨percent, slugify name, of⟩ item listed scope).toOption
            = (shareBase ⟨percent, name, of⟩ item listed scope).toOption)
      ∧ ∀ spell, KeepsAscii spell →
          IsIdentity (slugWith spell name)
            ∧ slugWith spell (slugWith spell name) = slugWith spell name
            ∧ (slugWith spell name = name ↔ IsIdentity name) := by
  have hform := isIdentity_slugWith Transliteration.transliterate name
  have hiff := slugWith_eq_self_iff keepsAscii_transliterate name
  rw [← slugify_eq_slugWith] at hform hiff
  refine ⟨hform, slugify_slugify name, hiff, fun o => ?_, fun percent of item listed scope => ?_,
    fun spell hspell => ?_⟩
  · rw [Overrides.of?, Overrides.of?, slugify_slugify]
  · exact toOption_shareBase_slugify percent name of item listed scope
  · have hspelled := isIdentity_slugWith spell name
    exact ⟨hspelled, slugWith_of_isIdentity hspell hspelled, slugWith_eq_self_iff hspell name⟩

/-- A name whose first character is spelled as three with a blank in front of them. -/
theorem cremeBrulee_settled :
    KeepsAscii Transliteration.transliterate
      ∧ slugWith Transliteration.transliterate "½ Crème Brûlée!" = "1-2-creme-brulee"
      ∧ IsIdentity "1-2-creme-brulee"
      ∧ slugWith Transliteration.transliterate "1-2-creme-brulee" = "1-2-creme-brulee" := by
  rcases identities_settled "½ Crème Brûlée!" with ⟨-, -, -, -, -, hspelled⟩
  rcases hspelled Transliteration.transliterate keepsAscii_transliterate with ⟨hform, hself, -⟩
  have hslug : slugWith Transliteration.transliterate "½ Crème Brûlée!" = "1-2-creme-brulee" := by
    decide +kernel
  rw [hslug] at hform hself
  exact ⟨keepsAscii_transliterate, hslug, hform, hself⟩

end Mise
