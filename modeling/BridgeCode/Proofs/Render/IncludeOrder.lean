import BridgeCode.Proofs.Text.CodePoints
import BridgeCode.Target.Cpp

/-!
Include lists are normal forms of sets of include targets.

Being in order is being strictly sorted by one asymmetric relation (`Ranked.pairwise_ahead`), so only
one list of given members is in order (`Ranked.eq_of_mem_iff`). An include list is in order and keeps
the members, hence it tells the set of the targets that were asked for and nothing else
(`sortIncludes_eq_iff`): neither how often nor in which order they were asked for. The lists in order
are the ones that sorting leaves as they are (`sortIncludes_eq_self_iff`).
-/

namespace BridgeCode

namespace Render

/-- The first target stands before the second one: targets of the system come first, and the order
of code units decides within each group. -/
def Ahead (first second : String) : Prop :=
  isSystem first = true ∧ isSystem second = false ∨
    isSystem first = isSystem second ∧ Text.Precedes first second

theorem Ahead.asymm {first second : String} (ahead : Ahead first second) : ¬ Ahead second first := by
  rcases ahead with ⟨system, own⟩ | ⟨same, before⟩
  · rintro (⟨system', -⟩ | ⟨same, -⟩)
    · rw [own] at system'
      cases system'
    · rw [system, own] at same
      cases same
  · rintro (⟨system, own⟩ | ⟨-, after⟩)
    · rw [system, own] at same
      cases same
    · exact before.asymm after

/-- A list in order is strictly sorted as a whole. -/
theorem Ranked.pairwise_ahead {targets : List String} (ranked : Ranked targets) :
    targets.Pairwise Ahead := by
  obtain ⟨system, own, rfl, marked, unmarked, systemSorted, ownSorted⟩ := ranked.groups
  refine List.pairwise_append.2 ⟨?_, ?_, ?_⟩
  · refine systemSorted.imp_of_mem fun inFirst inSecond before => .inr ⟨?_, before⟩
    rw [marked _ inFirst, marked _ inSecond]
  · refine ownSorted.imp_of_mem fun inFirst inSecond before => .inr ⟨?_, before⟩
    rw [unmarked _ inFirst, unmarked _ inSecond]
  · intro first inSystem second inOwn
    exact .inl ⟨marked first inSystem, unmarked second inOwn⟩

/-- Lists in order are told apart by their members. -/
theorem Ranked.eq_of_mem_iff {targets others : List String} (ranked : Ranked targets)
    (rankedOthers : Ranked others) (members : ∀ target, target ∈ targets ↔ target ∈ others) :
    targets = others := by
  have perm : targets.Perm others :=
    (List.perm_ext_iff_of_nodup ranked.nodup rankedOthers.nodup).2 members
  refine List.Perm.eq_of_pairwise ?_ ranked.pairwise_ahead rankedOthers.pairwise_ahead perm
  intro first second _ _ ahead behind
  exact absurd behind ahead.asymm

/-- The lists in order are those that are their own include lists. -/
theorem sortIncludes_eq_self_iff {targets : List String} :
    sortIncludes targets = targets ↔ Ranked targets := by
  constructor
  · intro same
    rw [← same]
    exact sortIncludes_ranked targets
  · intro ranked
    exact (sortIncludes_ranked targets).eq_of_mem_iff ranked fun _ => mem_sortIncludes

theorem sortIncludes_eq_iff {names others : List String} :
    sortIncludes names = sortIncludes others ↔ ∀ name, name ∈ names ↔ name ∈ others := by
  constructor
  · intro same name
    calc name ∈ names ↔ name ∈ sortIncludes names := mem_sortIncludes.symm
      _ ↔ name ∈ sortIncludes others := by rw [same]
      _ ↔ name ∈ others := mem_sortIncludes
  · intro members
    refine (sortIncludes_ranked names).eq_of_mem_iff (sortIncludes_ranked others) fun name => ?_
    rw [mem_sortIncludes, mem_sortIncludes]
    exact members name

theorem count_sortIncludes (names : List String) (name : String) :
    (sortIncludes names).count name = if name ∈ names then 1 else 0 := by
  rw [(sortIncludes_ranked names).nodup.count]
  simp only [mem_sortIncludes]

end Render

/-- The include lines of a header tell its include list. -/
theorem CppTarget.includeLines_eq_iff {names others : List String} :
    includeLines names = includeLines others ↔
      Render.sortIncludes names = Render.sortIncludes others :=
  List.map_inj_right fun _ _ => (String.append_right_inj "#include ").1

namespace Render

/-- Two sequences of names have the same include list, and the same include lines, if and only if
they name the same targets. The include list has every target once, those of the system first and
each group strictly in the order of code units, and it is its own include list. The order of code
units is that of code points except for texts whose first difference is a character above U+FFFF on
one side and one from U+E000 to U+FFFF on the other. -/
theorem includes_told_by_set (names : List String) :
    (∀ others, sortIncludes names = sortIncludes others ↔ ∀ name, name ∈ names ↔ name ∈ others) ∧
    (∀ others, CppTarget.includeLines names = CppTarget.includeLines others ↔
      ∀ name, name ∈ names ↔ name ∈ others) ∧
    (∀ name, (sortIncludes names).count name = if name ∈ names then 1 else 0) ∧
    Ranked (sortIncludes names) ∧
    sortIncludes (sortIncludes names) = sortIncludes names ∧
    ∀ s t : String, (Text.Precedes s t ↔ s < t) ↔ ¬ Text.Crossed s.toList t.toList := by
  have ranked := sortIncludes_ranked names
  refine ⟨fun others => sortIncludes_eq_iff, fun others => ?_, count_sortIncludes names, ranked,
    sortIncludes_eq_self_iff.2 ranked, Text.precedes_agrees_iff⟩
  rw [CppTarget.includeLines_eq_iff, sortIncludes_eq_iff]

/-- U+1F600 stands in front of U+FF8A, which has the lower code point. -/
theorem supplementary_include_first :
    sortIncludes ["<ﾊ>", "\"b.hpp\"", "<😀>", "<ﾊ>"] = ["<😀>", "<ﾊ>", "\"b.hpp\""] ∧
      "<ﾊ>" < "<😀>" := by
  have sameSet : ∀ name, name ∈ ["<ﾊ>", "\"b.hpp\"", "<😀>", "<ﾊ>"] ↔
      name ∈ ["<😀>", "<ﾊ>", "\"b.hpp\""] := by
    grind
  have ranked : Ranked ["<😀>", "<ﾊ>", "\"b.hpp\""] :=
    ⟨by decide, ["<😀>", "<ﾊ>"], ["\"b.hpp\""], rfl, by decide, by decide, by decide, by decide⟩
  obtain ⟨toldBySet, -⟩ := includes_told_by_set ["<ﾊ>", "\"b.hpp\"", "<😀>", "<ﾊ>"]
  exact ⟨((toldBySet _).2 sameSet).trans (sortIncludes_eq_self_iff.2 ranked), by decide⟩

end Render

end BridgeCode
