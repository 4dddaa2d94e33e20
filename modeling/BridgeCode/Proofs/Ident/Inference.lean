import Mathlib.Logic.Basic
import BridgeCode.Ident.Style

/-!
Converters from examples.

An example shows a converter by the spelling of the probe token. No probe is the end of another one
(`Style.eq_of_probe_suffix`), so an example ends with the probe of one style at most and the order
in which the styles are tried does not matter. The literal is what stands in front of the probe:
`infer_eq_some_iff` says that a converter is inferred exactly from what it makes of the probe token.
-/

namespace BridgeCode.Ident

/-- What the styles make of the probe token, in the order in which an example is compared. -/
def probeTexts : List String := ["FooBar", "fooBar", "foo_bar", "Foo_Bar", "FOO_BAR"]

theorem probeTexts_eq : probeTexts = Style.all.map Style.probe := by decide

namespace Style

theorem mem_all (style : Style) : style ∈ all := by
  cases style <;> decide

theorem probe_ne_nil (style : Style) : style.probe.toList ≠ [] := by
  cases style <;> decide

/-- No probe is the end of another one. -/
theorem eq_of_probe_suffix {style other : Style}
    (ends : style.probe.toList <:+ other.probe.toList) : style = other := by
  revert ends
  cases style <;> cases other <;> decide

theorem eq_of_suffixes {style other : Style} {text : List Char}
    (ends : style.probe.toList <:+ text) (ends' : other.probe.toList <:+ text) : style = other := by
  rcases List.suffix_or_suffix_of_suffix ends ends' with inner | inner
  · exact eq_of_probe_suffix inner
  · exact (eq_of_probe_suffix inner).symm

/-- The converter of this style that an example shows, if it ends with the probe of the style. -/
def shownBy? (sample : String) (style : Style) : Option Converter :=
  (Text.stripSuffix? style.probe.toList sample.toList).map fun lead => ⟨String.ofList lead, style⟩

theorem shownBy?_eq_some_iff {sample : String} {style : Style} {converter : Converter} :
    style.shownBy? sample = some converter ↔
      converter.style = style ∧ converter.apply probeToken = sample := by
  obtain ⟨lead, inner⟩ := converter
  simp only [shownBy?, Option.map_eq_some_iff, Text.stripSuffix?_eq_some_iff style.probe_ne_nil,
    Converter.mk.injEq]
  constructor
  · rintro ⟨front, split, rfl, rfl⟩
    refine ⟨rfl, String.toList_injective ?_⟩
    rw [Converter.apply, String.toList_append, String.toList_ofList, split, probe]
  · rintro ⟨rfl, rfl⟩
    exact ⟨lead.toList, String.toList_append, String.ofList_toList, rfl⟩

theorem shownBy?_isSome_iff {sample : String} {style : Style} :
    (style.shownBy? sample).isSome ↔ style.probe.toList <:+ sample.toList := by
  rw [Option.isSome_iff_exists]
  constructor
  · rintro ⟨converter, shown⟩
    obtain ⟨rfl, rfl⟩ := shownBy?_eq_some_iff.1 shown
    rw [Converter.apply, String.toList_append]
    exact List.suffix_append _ _
  · rintro ⟨front, split⟩
    refine ⟨⟨String.ofList front, style⟩, shownBy?_eq_some_iff.2 ⟨rfl, String.toList_injective ?_⟩⟩
    rw [Converter.apply, String.toList_append, String.toList_ofList, ← split, probe]

end Style

/-- The first converter that an example shows among styles in some order. -/
def inferAmong (styles : List Style) (sample : String) : Option Converter :=
  styles.findSome? (Style.shownBy? sample)

theorem inferAmong_all (sample : String) : inferAmong Style.all sample = infer sample := rfl

/-- Among all styles, in any order, exactly the converter is inferred that makes the example of the
probe token. -/
theorem inferAmong_eq_some_iff {styles : List Style} (complete : ∀ style, style ∈ styles)
    {sample : String} {converter : Converter} :
    inferAmong styles sample = some converter ↔ converter.apply probeToken = sample := by
  constructor
  · intro inferred
    obtain ⟨style, -, shown⟩ := List.exists_of_findSome?_eq_some inferred
    exact (Style.shownBy?_eq_some_iff.1 shown).2
  · intro applied
    have shown := Style.shownBy?_eq_some_iff.2 ⟨rfl, applied⟩
    have ends := Style.shownBy?_isSome_iff.1 (Option.isSome_of_eq_some shown)
    cases inferred : inferAmong styles sample with
    | none =>
        rw [List.findSome?_eq_none_iff.1 inferred _ (complete converter.style)] at shown
        cases shown
    | some other =>
        -- another style would end the example as well
        obtain ⟨style, -, shown'⟩ := List.exists_of_findSome?_eq_some inferred
        have ends' := Style.shownBy?_isSome_iff.1 (Option.isSome_of_eq_some shown')
        rw [← Style.eq_of_suffixes ends ends', shown] at shown'
        exact shown'.symm

/-- A converter is inferred exactly from what it makes of the probe token. -/
theorem infer_eq_some_iff {sample : String} {converter : Converter} :
    infer sample = some converter ↔ converter.apply probeToken = sample :=
  inferAmong_eq_some_iff Style.mem_all

theorem infer_isSome_iff {sample : String} :
    (infer sample).isSome ↔ ∃ probe ∈ probeTexts, probe.toList <:+ sample.toList := by
  simp only [← inferAmong_all, inferAmong, List.findSome?_isSome_iff, probeTexts_eq, List.mem_map,
    exists_exists_and_eq_and, Style.shownBy?_isSome_iff]

/-- No two probes end the same text. -/
theorem pairwise_probeTexts (text : List Char) :
    probeTexts.Pairwise fun probe other => ¬ (probe.toList <:+ text ∧ other.toList <:+ text) := by
  have distinct : Style.all.Nodup := by decide
  rw [probeTexts_eq, List.pairwise_map]
  exact distinct.imp fun apart ends => apart (Style.eq_of_suffixes ends.1 ends.2)

/-- Inference undoes the application of a converter to the probe token. An example is understood
exactly if it ends with a probe. It ends with one at most, so the order of the styles does not
matter, and the converter makes the example of the probe token. A literal in front of what a style
makes of the probe token is understood as this literal and this style, for every token. -/
theorem infer_inverts_probe (sample : String) :
    ((infer sample).isSome ↔ ∃ probe ∈ probeTexts, probe.toList <:+ sample.toList) ∧
    (probeTexts.Pairwise fun probe other =>
      ¬ (probe.toList <:+ sample.toList ∧ other.toList <:+ sample.toList)) ∧
    (∀ styles : List Style, styles.Perm Style.all → inferAmong styles sample = infer sample) ∧
    (∀ converter, infer sample = some converter → converter.apply probeToken = sample) ∧
    ∀ (lead : String) (style : Style), ∃ converter,
      infer (lead ++ style.apply probeToken) = some converter ∧
        ∀ token, converter.apply token = lead ++ style.apply token := by
  refine ⟨infer_isSome_iff, pairwise_probeTexts _, ?_, fun _ => infer_eq_some_iff.1, ?_⟩
  · intro styles shuffled
    refine Option.ext fun converter => ?_
    rw [inferAmong_eq_some_iff fun style => shuffled.mem_iff.2 style.mem_all, infer_eq_some_iff]
  · exact fun lead style => ⟨⟨lead, style⟩, infer_eq_some_iff.2 rfl, fun _ => rfl⟩

/-- A literal that looks like a probe stays a literal: `fooBarFooBar` shows `FooBar` behind
`fooBar`. -/
theorem doubled_probe_inferred :
    [Style.allCaps, .underscoreCap, .identity, .camelLower, .camelUpper].Perm Style.all ∧
    infer "fooBarFooBar" = some ⟨"fooBar", .camelUpper⟩ ∧
    inferAmong [.allCaps, .underscoreCap, .identity, .camelLower, .camelUpper] "fooBarFooBar" =
      infer "fooBarFooBar" ∧
    (⟨"fooBar", .camelUpper⟩ : Converter).apply probeToken = "fooBarFooBar" := by
  obtain ⟨-, -, anyOrder, applied, -⟩ := infer_inverts_probe "fooBarFooBar"
  have shuffled :
      [Style.allCaps, .underscoreCap, .identity, .camelLower, .camelUpper].Perm Style.all := by
    decide
  have inferred : infer "fooBarFooBar" = some ⟨"fooBar", .camelUpper⟩ := by decide
  exact ⟨shuffled, inferred, anyOrder _ shuffled, applied _ inferred⟩

end BridgeCode.Ident
