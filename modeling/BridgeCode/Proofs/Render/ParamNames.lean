import Mathlib.Data.List.Nodup
import BridgeCode.Proofs.Ident.Weight

/-!
Parameter names in docs.

Names are replaced one after the other, each in the line that the earlier ones left behind. The
reference replaces all of them at once: every piece of the line that is a parameter name becomes its
spelling, and nothing else changes (`renameAtOnce`). The two differ where a later parameter is a
word of the spelling of an earlier one and is itself spelled otherwise. What such a parameter does
to a spelling is never undone by others, since the text gets heavier with each change
(`renameAll_stays_or_swells`).

* `renameAll_eq_renameOnce_iff`: when one line comes out as if all names were replaced at once.
* `params_renamed_at_once_iff`: the same for docs, and when the order of the parameters matters.
-/

namespace BridgeCode.Render

open Text

/-! ## Texts that get heavier -/

/-- The changed text is the old one if the condition holds, and else it is heavier. -/
def StaysOrSwells (text changed : List Char) (kept : Prop) : Prop :=
  changed = text ∧ kept ∨ weight text < weight changed ∧ ¬ kept

namespace StaysOrSwells

variable {text changed : List Char} {kept : Prop}

theorem eq_or_lt (change : StaysOrSwells text changed kept) :
    changed = text ∨ weight text < weight changed :=
  change.imp And.left And.left

theorem eq_iff (change : StaysOrSwells text changed kept) : changed = text ↔ kept := by
  rcases change with ⟨same, holds⟩ | ⟨heavier, fails⟩
  · exact iff_of_true same holds
  · exact iff_of_false (fun same => Nat.lt_irrefl _ (same ▸ heavier)) fails

end StaysOrSwells

theorem flatMap_eq_or_weight_lt {items : List (List Char)} {f g : List Char → List Char}
    (each : ∀ item ∈ items, f item = g item ∨ weight (g item) < weight (f item)) :
    (∀ item ∈ items, f item = g item) ∨ weight (items.flatMap g) < weight (items.flatMap f) := by
  induction items with
  | nil => exact .inl nofun
  | cons item items ih =>
      rw [List.forall_mem_cons] at each
      simp only [List.flatMap_cons, weight_append]
      rcases each.1, ih each.2 with ⟨same | heavier, rest | more⟩
      · exact .inl (List.forall_mem_cons.2 ⟨same, rest⟩)
      · exact .inr (by rw [same]; omega)
      · exact .inr (by rw [List.flatMap_congr rest]; omega)
      · exact .inr (by omega)

/-- Texts in pieces are equal exactly if all pieces are, where no piece got lighter. -/
theorem flatMap_eq_iff_of_heavier {items : List (List Char)} {f g : List Char → List Char}
    (each : ∀ item ∈ items, f item = g item ∨ weight (g item) < weight (f item)) :
    items.flatMap f = items.flatMap g ↔ ∀ item ∈ items, f item = g item := by
  constructor
  · intro same
    refine (flatMap_eq_or_weight_lt each).resolve_right fun heavier => ?_
    rw [same] at heavier
    exact Nat.lt_irrefl _ heavier
  · exact List.flatMap_congr

/-! ## One name after the other, and all at once -/

section Rename

variable (spell : List Char → List Char)

/-- A text with one name replaced by its spelling. -/
def renameOne (name text : List Char) : List Char := replaceWord name (spell name) 0 false text

/-- A text with names replaced one after the other. -/
def renameAll (names : List (List Char)) (text : List Char) : List Char :=
  names.foldl (fun text name => renameOne spell name text) text

/-- A text with all names replaced at once. -/
def renameOnce (names : List (List Char)) (text : List Char) : List Char :=
  (pieces text).flatMap fun piece => if piece ∈ names then spell piece else piece

/-- The words of the text are spelled as they are, or heavier. -/
def Swelling (text : List Char) : Prop :=
  ∀ word ∈ pieces text, IsWord word → spell word = word ∨ weight word < weight (spell word)

/-- The names that are words of the text are spelled as they are. -/
def Untouched (names : List (List Char)) (text : List Char) : Prop :=
  ∀ name ∈ names, name ∈ pieces text → spell name = name

variable {spell} {name text : List Char} {names : List (List Char)}

/-- Replacing a name changes nothing if the name is no word of the text or is spelled as it is, and
else it makes the text heavier. -/
theorem renameOne_stays_or_swells (isWord : IsWord name) (swelling : Swelling spell text) :
    StaysOrSwells text (renameOne spell name text) (name ∈ pieces text → spell name = name) := by
  have whole := flatMap_pieces text
  have each : ∀ piece ∈ pieces text,
      (if piece = name then spell name else piece) = piece ∨
        weight piece < weight (if piece = name then spell name else piece) := by
    intro piece member
    split
    · next same => exact same ▸ swelling piece member (same ▸ isWord)
    · exact .inl rfl
  rw [renameOne, replaceWord_eq_flatMap isWord]
  rcases flatMap_eq_or_weight_lt each with same | heavier
  · refine .inl ⟨(List.flatMap_congr same).trans whole, fun occurs => ?_⟩
    have kept := same name occurs
    rwa [if_pos rfl] at kept
  · rw [whole] at heavier
    refine .inr ⟨heavier, fun kept => Nat.ne_of_lt heavier (congrArg weight ?_)⟩
    refine whole.symm.trans (List.flatMap_congr fun piece member => ?_)
    split
    · next same => rw [kept (same ▸ member), same]
    · rfl

/-- A word of the new text is one of the old text or of the spelling. -/
theorem mem_pieces_renameOne (isWord : IsWord name) {word : List Char}
    (occurs : word ∈ pieces (renameOne spell name text)) :
    word ∈ pieces text ∨ word ∈ pieces (spell name) := by
  rw [renameOne, (wordwise_replaceWord isWord).pieces_eq, List.mem_flatMap] at occurs
  obtain ⟨piece, member, occurs⟩ := occurs
  rw [replaceWord_piece isWord member] at occurs
  split at occurs
  · exact .inr occurs
  · rw [pieces_of_mem_pieces member, List.mem_singleton] at occurs
    exact .inl (occurs ▸ member)

theorem Swelling.renameOne (isWord : IsWord name) (swelling : Swelling spell text)
    (spelled : Swelling spell (spell name)) : Swelling spell (renameOne spell name text) :=
  fun word occurs inside => (mem_pieces_renameOne isWord occurs).elim
    (fun occurs => swelling word occurs inside) fun occurs => spelled word occurs inside

/-- Replacing names one after the other changes nothing if those that are words of the text are
spelled as they are, and else it makes the text heavier: no later name takes a change back. -/
theorem renameAll_stays_or_swells (words : ∀ name ∈ names, IsWord name)
    (spelled : ∀ name ∈ names, Swelling spell (spell name)) (swelling : Swelling spell text) :
    StaysOrSwells text (renameAll spell names text) (Untouched spell names text) := by
  induction names generalizing text with
  | nil => exact .inl ⟨rfl, nofun⟩
  | cons name names ih =>
      rw [List.forall_mem_cons] at words spelled
      rw [renameAll, List.foldl_cons, ← renameAll, Untouched, List.forall_mem_cons]
      rcases renameOne_stays_or_swells words.1 swelling with ⟨same, kept⟩ | ⟨heavier, changed⟩
      · rw [same]
        exact (ih words.2 spelled.2 swelling).imp (And.imp_right fun rest => ⟨kept, rest⟩)
          (And.imp_right fun touched all => touched all.2)
      · refine .inr ⟨?_, fun all => changed all.1⟩
        rcases ih words.2 spelled.2 (swelling.renameOne words.1 spelled.1) with
          ⟨same, -⟩ | ⟨more, -⟩
        · rwa [same]
        · exact Nat.lt_trans heavier more

theorem wordwise_renameAll (words : ∀ name ∈ names, IsWord name) :
    Wordwise (renameAll spell names) := by
  induction names with
  | nil => exact .id
  | cons name names ih =>
      rw [List.forall_mem_cons] at words
      exact (ih words.2).comp (wordwise_replaceWord words.1)

/-- Names that are no pieces of a text are not replaced. -/
theorem renameAll_of_not_mem (words : ∀ name ∈ names, IsWord name)
    (absent : ∀ name ∈ names, name ∉ pieces text) : renameAll spell names text = text := by
  induction names with
  | nil => rfl
  | cons name names ih =>
      rw [List.forall_mem_cons] at words absent
      have same : renameOne spell name text = text := by
        rw [renameOne, replaceWord_eq_flatMap words.1]
        refine Eq.trans ?_ (flatMap_pieces text)
        refine List.flatMap_congr fun piece member => ?_
        have other : piece ≠ name := fun same => absent.1 (same ▸ member)
        exact if_neg other
      rw [renameAll, List.foldl_cons, same]
      exact ih words.2 absent.2

/-- A name of distinct names is replaced by its spelling, and what becomes of that is up to the
later names. -/
theorem renameAll_name_stays_or_swells {earlier later : List (List Char)}
    (words : ∀ other ∈ earlier ++ name :: later, IsWord other)
    (distinct : (earlier ++ name :: later).Nodup)
    (spelled : ∀ other ∈ earlier ++ name :: later, Swelling spell (spell other)) :
    StaysOrSwells (spell name) (renameAll spell (earlier ++ name :: later) name)
      (Untouched spell later (spell name)) := by
  rw [List.forall_mem_append, List.forall_mem_cons] at words spelled
  obtain ⟨before, isWord, after⟩ := words
  have first : renameAll spell earlier name = name := by
    refine renameAll_of_not_mem before ?_
    rw [isWord.pieces_eq]
    intro other member same
    rw [List.mem_singleton.1 same] at member
    exact (List.nodup_append.1 distinct).2.2 name member name List.mem_cons_self rfl
  have here : renameOne spell name name = spell name := by
    rw [renameOne, replaceWord_alone isWord isWord.chars, if_pos rfl]
  have split : renameAll spell (earlier ++ name :: later) name =
      renameAll spell later (renameOne spell name (renameAll spell earlier name)) :=
    List.foldl_append
  rw [split, first, here]
  exact renameAll_stays_or_swells after spelled.2.2 spelled.2.1

theorem pairwise_iff_forall_later {α : Type} {R : α → α → Prop} {items : List α} :
    items.Pairwise R ↔
      ∀ earlier item later, items = earlier ++ item :: later → ∀ other ∈ later, R item other := by
  induction items with
  | nil => simp
  | cons item items ih =>
      rw [List.pairwise_cons, ih]
      constructor
      · rintro ⟨first, rest⟩ earlier other later split
        cases earlier with
        | nil =>
            obtain ⟨rfl, rfl⟩ := List.cons_eq_cons.1 split
            exact first
        | cons head earlier => exact rest earlier other later (List.cons_eq_cons.1 split).2
      · intro all
        exact ⟨all [] item items rfl, fun earlier other later split =>
          all (item :: earlier) other later (congrArg (item :: ·) split)⟩

/-- A line comes out as if all names were replaced at once exactly if every name that is a word of
the line has a spelling in which each later name that is a word of it is spelled as it is. -/
theorem renameAll_eq_renameOnce_iff (words : ∀ name ∈ names, IsWord name) (distinct : names.Nodup)
    (spelled : ∀ name ∈ names, Swelling spell (spell name)) :
    renameAll spell names text = renameOnce spell names text ↔
      names.Pairwise fun name later =>
        name ∈ pieces text → later ∈ pieces (spell name) → spell later = later := by
  have apart : ∀ piece ∈ pieces text, piece ∉ names →
      renameAll spell names piece = piece := by
    intro piece member absent
    refine renameAll_of_not_mem words fun name among occurs => absent ?_
    rw [pieces_of_mem_pieces member, List.mem_singleton] at occurs
    exact occurs ▸ among
  have inside : ∀ earlier name later, names = earlier ++ name :: later →
      StaysOrSwells (spell name) (renameAll spell names name)
        (Untouched spell later (spell name)) := by
    rintro earlier name later rfl
    exact renameAll_name_stays_or_swells words distinct spelled
  have each : ∀ piece ∈ pieces text,
      renameAll spell names piece = (if piece ∈ names then spell piece else piece) ∨
        weight (if piece ∈ names then spell piece else piece) <
          weight (renameAll spell names piece) := by
    intro piece member
    split
    · next among =>
        obtain ⟨earlier, later, split⟩ := List.append_of_mem among
        exact (inside earlier piece later split).eq_or_lt
    · next absent => exact .inl (apart piece member absent)
  rw [(wordwise_renameAll words).eq_flatMap, renameOnce, flatMap_eq_iff_of_heavier each,
    pairwise_iff_forall_later]
  constructor
  · intro same earlier name later split other among occurs
    have kept := same name occurs
    rw [if_pos (split ▸ by simp), (inside earlier name later split).eq_iff] at kept
    exact kept other among
  · intro kept piece member
    split
    · next among =>
        obtain ⟨earlier, later, split⟩ := List.append_of_mem among
        exact (inside earlier piece later split).eq_iff.2 fun other among =>
          kept earlier piece later split other among member
    · next absent => exact apart piece member absent

end Rename

/-! ## Lines and docs -/

section Docs

open Ident

/-- A line with every piece that is a parameter name replaced by its spelling, all at once. -/
def renameAtOnce (spell : String → String) (params : List String) (line : String) : String :=
  String.join (((pieces line.toList).map String.ofList).map fun piece =>
    if piece ∈ params then spell piece else piece)

/-- A name is a whole word of the text. -/
def HasWord (text name : String) : Prop := name.toList ∈ pieces text.toList

instance (text name : String) : Decidable (HasWord text name) :=
  inferInstanceAs (Decidable (name.toList ∈ pieces text.toList))

/-- Spelling on lists of characters. -/
def onChars (spell : String → String) (name : List Char) : List Char :=
  (spell (String.ofList name)).toList

theorem onChars_toList (spell : String → String) (name : String) :
    onChars spell name.toList = (spell name).toList := by
  rw [onChars, String.ofList_toList]

theorem mem_map_toList {piece : List Char} {params : List String} :
    piece ∈ params.map String.toList ↔ String.ofList piece ∈ params := by
  constructor
  · intro member
    obtain ⟨param, among, rfl⟩ := List.mem_map.1 member
    rwa [String.ofList_toList]
  · exact fun member => List.mem_map.2 ⟨_, member, String.toList_ofList⟩

theorem toList_renameAtOnce (spell : String → String) (params : List String) (line : String) :
    (renameAtOnce spell params line).toList =
      renameOnce (onChars spell) (params.map String.toList) line.toList := by
  rw [renameAtOnce, renameOnce, String.toList_join, List.map_map, List.flatMap_map]
  refine List.flatMap_congr fun piece _ => ?_
  simp only [Function.comp_apply, mem_map_toList]
  split
  · rfl
  · exact String.toList_ofList

theorem toList_foldl_renameIn (spell : String → String) (params : List String) (line : String) :
    (params.foldl (renameIn spell) line).toList =
      renameAll (onChars spell) (params.map String.toList) line.toList := by
  induction params generalizing line with
  | nil => rfl
  | cons param params ih =>
      have step : (renameIn spell line param).toList =
          renameOne (onChars spell) param.toList line.toList := by
        rw [renameIn, String.toList_ofList, renameOne, onChars_toList]
      rw [List.foldl_cons, ih, step]
      rfl

theorem swelling_spelled (converter : Converter) {name : List Char} (chars : WordChars name) :
    Swelling (onChars converter.apply) (onChars converter.apply name) := by
  have spelled : ∀ word, WordChars word →
      onChars converter.apply word = converter.spelled word := by
    intro word chars
    rw [onChars, Converter.toList_apply (by rwa [String.toList_ofList]), String.toList_ofList]
  intro word occurs isWord
  rw [spelled name chars] at occurs
  rw [spelled word isWord.chars]
  exact converter.stays_or_swells chars isWord occurs

variable {converter : Converter} {params : List String}

/-- If a parameter is a word of the line, a later one that is a word of its spelling is spelled as
it is. -/
def Settled (spell : String → String) (line param later : String) : Prop :=
  HasWord line param → HasWord (spell param) later → spell later = later

theorem foldl_renameIn_eq_iff (distinct : params.Nodup)
    (words : ∀ param ∈ params, IsWord param.toList) (line : String) :
    params.foldl (renameIn converter.apply) line = renameAtOnce converter.apply params line ↔
      params.Pairwise (Settled converter.apply line) := by
  have words' := List.forall_mem_map.2 words
  have spelled : ∀ name ∈ params.map String.toList,
      Swelling (onChars converter.apply) (onChars converter.apply name) :=
    fun name member => swelling_spelled converter (words' name member).chars
  have distinct' : (params.map String.toList).Nodup :=
    List.pairwise_map.2 (distinct.imp fun apart same => apart (String.toList_injective same))
  rw [← String.toList_inj, toList_foldl_renameIn, toList_renameAtOnce,
    renameAll_eq_renameOnce_iff words' distinct' spelled, List.pairwise_map]
  simp only [onChars_toList, String.toList_inj]
  rfl

theorem renameAtOnce_congr {spell : String → String} {others : List String}
    (same : ∀ name, name ∈ others ↔ name ∈ params) (line : String) :
    renameAtOnce spell others line = renameAtOnce spell params line := by
  simp only [renameAtOnce, same]

/-- For names in any order, all lines come out as if they were replaced at once if no spelling holds
another name that is spelled otherwise. -/
theorem foldl_renameIn_of_perm (distinct : params.Nodup)
    (words : ∀ param ∈ params, IsWord param.toList) {others : List String}
    (shuffled : others.Perm params)
    (apart : ∀ param ∈ params, ∀ other ∈ params, param ≠ other →
      HasWord (converter.apply param) other → converter.apply other = other) (line : String) :
    others.foldl (renameIn converter.apply) line = renameAtOnce converter.apply params line := by
  have distinct' := shuffled.nodup_iff.2 distinct
  have settled : others.Pairwise (Settled converter.apply line) :=
    List.Nodup.pairwise_of_forall_ne distinct' fun param among later among' differ _ =>
      apart param (shuffled.mem_iff.1 among) later (shuffled.mem_iff.1 among') differ
  rw [(foldl_renameIn_eq_iff distinct'
    (fun param among => words param (shuffled.mem_iff.1 among)) line).2 settled]
  exact renameAtOnce_congr (fun _ => shuffled.mem_iff) line

/-- If the order does not matter, no spelling holds another name that is spelled otherwise: on the
line that is the first name alone, the order with this name last gives its spelling, and so must the
order with the other name last. -/
theorem apart_of_perm (distinct : params.Nodup) (words : ∀ param ∈ params, IsWord param.toList)
    (same : ∀ others : List String, others.Perm params → ∀ line,
      others.foldl (renameIn converter.apply) line = params.foldl (renameIn converter.apply) line)
    {param other : String} (among : param ∈ params) (among' : other ∈ params)
    (differ : param ≠ other) (holds : HasWord (converter.apply param) other) :
    converter.apply other = other := by
  have last : ∀ name ∈ params, (params.erase name ++ [name]).Perm params := fun name member =>
    (List.perm_append_comm.trans (List.perm_cons_erase member).symm)
  have settled_iff : ∀ name ∈ params,
      params.foldl (renameIn converter.apply) param = renameAtOnce converter.apply params param ↔
        (params.erase name ++ [name]).Pairwise (Settled converter.apply param) := by
    intro name member
    have shuffled := last name member
    rw [← foldl_renameIn_eq_iff (shuffled.nodup_iff.2 distinct)
      (fun param among => words param (shuffled.mem_iff.1 among)) param,
      renameAtOnce_congr (fun _ => shuffled.mem_iff) param, same _ shuffled]
  have elsewhere : ∀ name ∈ params.erase param, ∀ later,
      Settled converter.apply param name later := by
    intro name member later inside
    have same := String.toList_injective (eq_of_mem_pieces (words param among).chars inside)
    exact absurd same (distinct.mem_erase_iff.1 member).1
  have first : (params.erase param ++ [param]).Pairwise (Settled converter.apply param) :=
    List.pairwise_append.2
      ⟨List.pairwise_of_forall_mem_list fun name member later _ => elsewhere name member later,
        List.pairwise_singleton .., fun name member later _ => elsewhere name member later⟩
  have second := (settled_iff other among').1 ((settled_iff param among).2 first)
  refine (List.pairwise_append.1 second).2.2 param ((List.mem_erase_of_ne differ).2 among) other
    List.mem_cons_self ?_ holds
  rw [HasWord, (words param among).pieces_eq]
  exact List.mem_cons_self

/-- Replacing the parameter names of a doc keeps the number of lines. The lines come out as if all
names were replaced at once exactly if, for each parameter that is a word of a line, every later
parameter that is a word of its spelling is spelled as it is. So the order of the parameters does
not matter exactly if this holds of every two parameters: otherwise a spelling that was put in is
taken for another parameter and spelled again. -/
theorem params_renamed_at_once_iff (converter : Converter) {params : List String}
    (distinct : params.Nodup) (words : ∀ param ∈ params, IsWord param.toList) :
    (∀ doc, (renameParams converter.apply params doc).length = doc.length) ∧
    (∀ doc, renameParams converter.apply params doc =
        doc.map (renameAtOnce converter.apply params) ↔
      ∀ line ∈ doc, params.Pairwise fun param later =>
        HasWord line param → HasWord (converter.apply param) later →
          converter.apply later = later) ∧
    ((∀ others : List String, others.Perm params → ∀ doc,
        renameParams converter.apply others doc = renameParams converter.apply params doc) ↔
      ∀ param ∈ params, ∀ other ∈ params, param ≠ other →
        HasWord (converter.apply param) other → converter.apply other = other) := by
  refine ⟨fun doc => List.length_map .., fun doc => ?_, ?_, ?_⟩
  · rw [renameParams, List.map_inj_left]
    exact forall₂_congr fun line _ => foldl_renameIn_eq_iff distinct words line
  · intro same param among other among' differ holds
    refine apart_of_perm distinct words (fun others shuffled line => ?_) among among' differ holds
    exact (List.cons_eq_cons.1 (same others shuffled [line])).1
  · intro apart others shuffled doc
    refine List.map_congr_left fun line _ => ?_
    rw [foldl_renameIn_of_perm distinct words shuffled apart,
      foldl_renameIn_of_perm distinct words (.refl _) apart]

/-- Two names of which one is a part of the other but no word of its spelling. -/
theorem user_id_renamed_at_once :
    ["user_id", "id"].Nodup ∧ (∀ param ∈ ["user_id", "id"], IsWord param.toList) ∧
    infer "mFooBar" = some ⟨"m", .camelUpper⟩ ∧
    renameParams (⟨"m", .camelUpper⟩ : Converter).apply ["user_id", "id"]
        [" Finds user_id (not user_ids) by id, see $id."] =
      [" Finds mUserId (not user_ids) by mId, see $mId."] := by
  have distinct : ["user_id", "id"].Nodup := by decide
  have words : ∀ param ∈ ["user_id", "id"], IsWord param.toList := by decide
  obtain ⟨-, atOnce, -⟩ := params_renamed_at_once_iff ⟨"m", .camelUpper⟩ distinct words
  refine ⟨distinct, words, by decide, ((atOnce _).2 ?_).trans (by decide)⟩
  decide

/-- With the names `foo` and `mFoo` in this order the spelling of the first is taken for the second
and spelled again; in the other order it is not. -/
theorem spelling_renamed_again :
    infer "mFooBar" = some ⟨"m", .camelUpper⟩ ∧
    ["foo", "mFoo"].Nodup ∧ (∀ param ∈ ["foo", "mFoo"], IsWord param.toList) ∧
    renameParams (⟨"m", .camelUpper⟩ : Converter).apply ["foo", "mFoo"] [" Sets foo."] =
      [" Sets mMFoo."] ∧
    renameAtOnce (⟨"m", .camelUpper⟩ : Converter).apply ["foo", "mFoo"] " Sets foo." =
      " Sets mFoo." ∧
    renameParams (⟨"m", .camelUpper⟩ : Converter).apply ["mFoo", "foo"] [" Sets foo."] =
      [" Sets mFoo."] := by
  decide

end Docs

end BridgeCode.Render
