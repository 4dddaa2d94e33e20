import Mathlib.Algebra.BigOperators.Group.List.Basic
import Mathlib.Algebra.Group.Prod

/-!
Brackets in text.

* `Text.Balanced`: a text has as many closers as openers, and no front of it has more closers.
* `Nesting`: what brackets of one kind leave open. Texts in a row multiply their nestings
  (`brackets_append`), so the nesting of a text is found piece by piece. In a text without a lone
  closer no front has too many (`wellClosed_of_nesting`), and a text that leaves nothing open is
  balanced (`balanced_of_nesting`).
* `Text.Plain`: a text has neither braces nor parentheses. Such a text has no part in the nesting of
  texts around it (`brackets_of_plain`).
-/

namespace BridgeCode

namespace Text

/-- No front of the text has more closers than openers. -/
def WellClosed (opener closer : Char) (text : String) : Prop :=
  ∀ front, front <+: text.toList → front.count closer ≤ front.count opener

/-- There are as many closers as openers, and no front of the text has more closers. -/
def Balanced (opener closer : Char) (text : String) : Prop :=
  text.toList.count closer = text.toList.count opener ∧ WellClosed opener closer text

end Text

/-! ## What brackets leave open -/

/-- The brackets of one kind in a text that have no counterpart in it. All lone closers stand in
front of all lone openers. -/
@[ext]
structure Nesting where
  closers : Nat
  openers : Nat
deriving Repr, DecidableEq

namespace Nesting

/-- Of two texts in a row, the second closes what the first leaves open. -/
instance : Mul Nesting where
  mul first second :=
    ⟨first.closers + (second.closers - first.openers),
      second.openers + (first.openers - second.closers)⟩

instance : One Nesting where
  one := ⟨0, 0⟩

@[simp]
theorem closers_mul (first second : Nesting) :
    (first * second).closers = first.closers + (second.closers - first.openers) := rfl

@[simp]
theorem openers_mul (first second : Nesting) :
    (first * second).openers = second.openers + (first.openers - second.closers) := rfl

@[simp]
theorem closers_one : (1 : Nesting).closers = 0 := rfl

@[simp]
theorem openers_one : (1 : Nesting).openers = 0 := rfl

instance : Monoid Nesting where
  mul_assoc first second third := by
    ext
    · simp only [closers_mul, openers_mul]
      omega
    · simp only [closers_mul, openers_mul]
      omega
  one_mul nesting := by
    ext
    · simp
    · simp
  mul_one nesting := by
    ext
    · simp
    · simp

/-- The nesting of a single character. -/
def ofChar (opener closer c : Char) : Nesting :=
  if c = opener then ⟨0, 1⟩ else if c = closer then ⟨1, 0⟩ else 1

/-- The nesting of characters in a row. -/
def ofChars (opener closer : Char) (text : List Char) : Nesting :=
  (text.map (ofChar opener closer)).prod

variable {opener closer : Char}

theorem ofChars_append (text more : List Char) :
    ofChars opener closer (text ++ more) =
      ofChars opener closer text * ofChars opener closer more := by
  rw [ofChars, List.map_append, List.prod_append, ofChars, ofChars]

theorem ofChars_of_forall_ne {text : List Char} (other : ∀ c ∈ text, c ≠ opener ∧ c ≠ closer) :
    ofChars opener closer text = 1 := by
  refine List.prod_eq_one fun nesting member => ?_
  obtain ⟨c, among, rfl⟩ := List.mem_map.1 member
  rw [ofChar, if_neg (other c among).1, if_neg (other c among).2]

/-- Brackets that have a counterpart come in pairs. -/
theorem count_add_openers (distinct : opener ≠ closer) (text : List Char) :
    text.count closer + (ofChars opener closer text).openers =
      text.count opener + (ofChars opener closer text).closers := by
  induction text with
  | nil => rfl
  | cons c text ih =>
      have split : ofChars opener closer (c :: text) =
          ofChar opener closer c * ofChars opener closer text := List.prod_cons
      rw [split, List.count_cons, List.count_cons, closers_mul, openers_mul, ofChar]
      by_cases opens : c = opener
      · subst opens
        simp [distinct]
        omega
      · by_cases closes : c = closer
        · subst closes
          simp [opens]
          omega
        · simp [opens, closes]
          omega

/-- A text without a lone closer has none in any front of it. -/
theorem closers_eq_zero_of_prefix {front text : List Char} (isFront : front <+: text)
    (closed : (ofChars opener closer text).closers = 0) :
    (ofChars opener closer front).closers = 0 := by
  obtain ⟨rest, rfl⟩ := isFront
  rw [ofChars_append, closers_mul] at closed
  omega

end Nesting

namespace Text

theorem wellClosed_of_nesting {opener closer : Char} {text : String} (distinct : opener ≠ closer)
    (closed : (Nesting.ofChars opener closer text.toList).closers = 0) :
    WellClosed opener closer text := by
  intro front isFront
  have paired := Nesting.count_add_openers distinct front
  rw [Nesting.closers_eq_zero_of_prefix isFront closed] at paired
  omega

theorem balanced_of_nesting {opener closer : Char} {text : String} (distinct : opener ≠ closer)
    (even : Nesting.ofChars opener closer text.toList = 1) : Balanced opener closer text := by
  have paired := Nesting.count_add_openers distinct text.toList
  rw [even] at paired
  exact ⟨paired, wellClosed_of_nesting distinct (by rw [even]; rfl)⟩

/-! ## Braces and parentheses -/

/-- What a text leaves open, of braces and of parentheses. -/
def brackets (text : String) : Nesting × Nesting :=
  (.ofChars '\x7b' '\x7d' text.toList, .ofChars '(' ')' text.toList)

theorem brackets_append (text more : String) :
    brackets (text ++ more) = brackets text * brackets more := by
  rw [brackets, String.toList_append, Nesting.ofChars_append, Nesting.ofChars_append]
  rfl

theorem brackets_intercalate {separator : String} (even : brackets separator = 1)
    (texts : List String) :
    brackets (separator.intercalate texts) = (texts.map brackets).prod := by
  induction texts with
  | nil => rfl
  | cons text texts ih =>
      cases texts with
      | nil => simp
      | cons other texts =>
          rw [String.intercalate_cons_cons, brackets_append, brackets_append, even, ih, mul_one]
          rfl

/-- A text that can be continued so that nothing is left open. -/
theorem wellClosed_of_brackets {text : String} {rest : Nesting × Nesting}
    (even : brackets text * rest = 1) :
    WellClosed '\x7b' '\x7d' text ∧ WellClosed '(' ')' text := by
  have braces : (Nesting.ofChars '\x7b' '\x7d' text.toList * rest.1).closers = 0 :=
    congrArg (fun nesting => nesting.1.closers) even
  have parens : (Nesting.ofChars '(' ')' text.toList * rest.2).closers = 0 :=
    congrArg (fun nesting => nesting.2.closers) even
  rw [Nesting.closers_mul] at braces parens
  exact ⟨wellClosed_of_nesting (by decide) (by omega), wellClosed_of_nesting (by decide) (by omega)⟩

theorem balanced_of_brackets {text : String} (even : brackets text = 1) :
    Balanced '\x7b' '\x7d' text ∧ Balanced '(' ')' text :=
  ⟨balanced_of_nesting (by decide) (congrArg Prod.fst even),
    balanced_of_nesting (by decide) (congrArg Prod.snd even)⟩

/-- Whether a character is a brace or a parenthesis. -/
def isBracket (c : Char) : Bool := ['\x7b', '\x7d', '(', ')'].contains c

/-- The text has neither braces nor parentheses. -/
def Plain (text : String) : Prop := ∀ c ∈ text.toList, isBracket c = false

-- Said by name, since a search could go through all characters there are.
instance (text : String) : Decidable (Plain text) :=
  List.decidableBAll (isBracket · = false) text.toList

theorem isBracket_cases {c : Char} (bracket : isBracket c = true) :
    c = '\x7b' ∨ c = '\x7d' ∨ c = '(' ∨ c = ')' := by
  simpa [isBracket] using bracket

theorem brackets_of_plain {text : String} (plain : Plain text) : brackets text = 1 := by
  have braces : Nesting.ofChars '\x7b' '\x7d' text.toList = 1 := by
    refine Nesting.ofChars_of_forall_ne fun c member => ?_
    have other := plain c member
    constructor <;> rintro rfl <;> cases other
  have parens : Nesting.ofChars '(' ')' text.toList = 1 := by
    refine Nesting.ofChars_of_forall_ne fun c member => ?_
    have other := plain c member
    constructor <;> rintro rfl <;> cases other
  rw [brackets, braces, parens]
  rfl

end Text

end BridgeCode
