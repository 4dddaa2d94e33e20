import BridgeCode.Proofs.Ident.Restyling

/-!
Examples in configuration documents.

A document is checked before anything is built from it, and the check lets only the keys of its
schema through (`keys_of_checkStyles`). Each of these keys names a role of the bundle
(`hasRole_of_styleSchemas`), so no document makes building report an unknown role
(`buildConfig_ne_unknownRole`).
-/

namespace BridgeCode

/-! ## Results of checks -/

namespace Checked

variable {α β γ : Type}

theorem ok_of_combine {f : α → β → γ} {first : Checked α} {second : Checked β} {result : γ}
    (ran : combine f first second = .ok result) :
    ∃ a b, f a b = result ∧ first = .ok a ∧ second = .ok b := by
  cases first with
  | bad issues => cases second <;> cases ran
  | ok a =>
      cases second with
      | bad issues => cases ran
      | ok b =>
          cases ran
          exact ⟨a, b, rfl, rfl, rfl⟩

theorem ok_of_seq {function : Checked (α → β)} {argument : Checked α} {result : β}
    (ran : function <*> argument = .ok result) :
    ∃ f a, f a = result ∧ function = .ok f ∧ argument = .ok a :=
  ok_of_combine ran

theorem ok_of_map {f : α → β} {argument : Checked α} {result : β}
    (ran : f <$> argument = .ok result) : ∃ a, f a = result ∧ argument = .ok a := by
  obtain ⟨_, a, made, same, checked⟩ := ok_of_seq ran
  cases same
  exact ⟨a, made, checked⟩

theorem ok_of_addIssues {checked : Checked α} {more : List Issue} {result : α}
    (ran : checked.addIssues more = .ok result) : checked = .ok result := by
  cases checked with
  | bad issues => cases ran
  | ok value =>
      rw [addIssues] at ran
      split at ran
      · exact ran
      · cases ran

/-- Results under keys are listed under the same keys. -/
theorem keys_of_all {check : String → Checked α} {keys : List String} {results : List (String × α)}
    (ran : Checked.all (keys.map fun key => (fun result => (key, result)) <$> check key) =
      .ok results) : results.map (·.1) = keys := by
  induction keys generalizing results with
  | nil =>
      cases ran
      rfl
  | cons key keys ih =>
      obtain ⟨first, rest, rfl, ranFirst, ranRest⟩ := ok_of_combine ran
      obtain ⟨result, rfl, -⟩ := ok_of_map ranFirst
      rw [List.map_cons, ih ranRest]

end Checked

namespace Schema

variable {α : Type} {check : Path → List (String × Value) → Checked α} {path : Path}
  {value : Option Value} {result : α}

theorem ok_of_object (ran : object check path value = .ok result) :
    ∃ fields, check path fields = .ok result := by
  unfold object at ran
  split at ran
  · exact ⟨_, ran⟩
  · cases ran

theorem ok_of_sectionOf (ran : sectionOf check path value = .ok result) :
    ∃ fields, check path fields = .ok result := by
  unfold sectionOf at ran
  split at ran
  · exact ⟨_, ran⟩
  · exact ok_of_object ran

end Schema

/-! ## Keys of examples -/

namespace ConfigDocument

open Schema
open Ident (Bundle)

theorem keys_of_checkStyles {keys : List String} {path : Path} {value : Option Value}
    {samples : StyleSamples} (ran : checkStyles keys path value = .ok samples) :
    samples.map (·.1) = keys := by
  obtain ⟨fields, ran⟩ := ok_of_sectionOf ran
  exact Checked.keys_of_all (Checked.ok_of_addIssues ran)

section

variable {path : Path} {value : Option Value}

theorem keys_of_checkCpp {result : CppSection} (ran : checkCpp path value = .ok result) :
    result.identStyle.map (·.1) = cppStyleKeys := by
  obtain ⟨fields, ran⟩ := ok_of_sectionOf ran
  repeat obtain ⟨_, _, rfl, ran, _⟩ := Checked.ok_of_seq ran
  cases ran
  exact keys_of_checkStyles ‹field _ _ "ident_style" _ = _›

theorem keys_of_checkJava {result : JavaSection} (ran : checkJava path value = .ok result) :
    result.identStyle.map (·.1) = javaStyleKeys := by
  obtain ⟨fields, ran⟩ := ok_of_sectionOf ran
  repeat obtain ⟨_, _, rfl, ran, _⟩ := Checked.ok_of_seq ran
  cases ran
  exact keys_of_checkStyles ‹field _ _ "ident_style" _ = _›

theorem keys_of_checkObjc {result : ObjcSection} (ran : checkObjc path value = .ok result) :
    result.identStyle.map (·.1) = javaStyleKeys := by
  obtain ⟨fields, ran⟩ := ok_of_sectionOf ran
  repeat obtain ⟨_, _, rfl, ran, _⟩ := Checked.ok_of_seq ran
  cases ran
  exact keys_of_checkStyles ‹field _ _ "ident_style" _ = _›

theorem keys_of_checkCppCli {result : CppCliSection} (ran : checkCppCli path value = .ok result) :
    result.identStyle.map (·.1) = cppCliStyleKeys := by
  obtain ⟨fields, ran⟩ := ok_of_sectionOf ran
  repeat obtain ⟨_, _, rfl, ran, _⟩ := Checked.ok_of_seq ran
  cases ran
  exact keys_of_checkStyles ‹field _ _ "ident_style" _ = _›

theorem keys_of_checkPython {result : PythonSection} (ran : checkPython path value = .ok result) :
    result.identStyle.map (·.1) = pythonStyleKeys := by
  obtain ⟨fields, ran⟩ := ok_of_sectionOf ran
  repeat obtain ⟨_, _, rfl, ran, _⟩ := Checked.ok_of_seq ran
  cases ran
  exact keys_of_checkStyles ‹field _ _ "ident_style" _ = _›

end

/-- The keys that the schema has for the examples of each bundle. -/
def styleSchemas : List (List String × Bundle) :=
  [(cppStyleKeys, .cpp), (javaStyleKeys, .java), (javaStyleKeys, .objc), (cppCliStyleKeys, .cppCli),
    (pythonStyleKeys, .python)]

/-- A document has examples under the keys of the schema. -/
theorem keys_of_check {path : Path} {value : Option Value} {document : ConfigDocument}
    (ran : check path value = .ok document) :
    ∀ part ∈ document.bundles, (part.2.2.map (·.1), part.2.1) ∈ styleSchemas := by
  obtain ⟨fields, ran⟩ := ok_of_object ran
  repeat obtain ⟨_, _, rfl, ran, _⟩ := Checked.ok_of_seq ran
  cases ran
  have cpp := keys_of_checkCpp ‹field _ _ "cpp" _ = _›
  have java := keys_of_checkJava ‹field _ _ "java" _ = _›
  have objc := keys_of_checkObjc ‹field _ _ "objc" _ = _›
  have cppCli := keys_of_checkCppCli ‹field _ _ "cpp_cli" _ = _›
  have python := keys_of_checkPython ‹field _ _ "python" _ = _›
  simp [bundles, styleSchemas, cpp, java, objc, cppCli, python]

/-- Every key of the schema names a role of its bundle. -/
theorem hasRole_of_styleSchemas : ∀ schema ∈ styleSchemas, ∀ key ∈ schema.1,
    schema.2.HasRole (Ident.Style.camelLower.apply key) := by
  decide +kernel

theorem hasRole_of_keys {samples : StyleSamples} {bundle : Bundle}
    (known : (samples.map (·.1), bundle) ∈ styleSchemas) :
    ∀ entry ∈ roleSamples samples, bundle.HasRole entry.1 := by
  intro entry listed
  obtain ⟨⟨key, sample⟩, member, rfl⟩ := List.mem_map.1 listed
  exact hasRole_of_styleSchemas _ known key (List.mem_map_of_mem (f := (·.1)) member)

end ConfigDocument

/-! ## Building -/

theorem buildStyles_ne_unknownRole {scope option : String} {bundle : Ident.Bundle}
    {samples : StyleSamples} (known : ∀ entry ∈ roleSamples samples, bundle.HasRole entry.1) :
    buildStyles scope bundle samples ≠ .error (.style (.unknownRole option)) := by
  intro failed
  unfold buildStyles at failed
  split at failed
  · cases failed
  · next error restyled =>
      cases failed
      obtain ⟨entry, member, absent, -⟩ := Ident.Bundle.unknown_of_restyle restyled
      exact absent (known entry member)

theorem buildStyle_ne_unknownRole {option sample unknown : String} :
    buildStyle option sample ≠ .error (.style (.unknownRole unknown)) := by
  intro failed
  unfold buildStyle at failed
  split at failed
  · cases failed
  · next error resolved =>
      cases failed
      exact Ident.resolveExample_ne_unknownRole resolved

/-- No configuration has an example for an unknown role. -/
theorem buildConfig_ne_unknownRole (base : BaseDir) (value : Value) (option : String) :
    buildConfig base value ≠ .error (.style (.unknownRole option)) := by
  intro failed
  unfold buildConfig at failed
  split at failed
  · next document checked =>
      rcases ConfigDocument.build_error_source failed with ⟨part, member, failed⟩ | ⟨_, _, failed⟩
      · have known := ConfigDocument.keys_of_check checked part member
        exact buildStyles_ne_unknownRole (ConfigDocument.hasRole_of_keys known) failed
      · exact buildStyle_ne_unknownRole failed
  · cases failed

open Ident (Bundle reservedNames) in
/-- Examples for different names restyle a bundle exactly unless the first that cannot be used is
given for a reserved name. The keys of a document all name roles, so a configuration never has an
example for an unknown role. -/
theorem bundles_restyled_exactly_iff {samples : StyleSamples} (nodup : (samples.map (·.1)).Nodup)
    (scope : String) (bundle : Bundle) :
    (bundle.RestylesExactly scope samples (bundle.restyle scope samples) ↔
      ∀ name sample, bundle.FirstUnusable samples name sample → name ∉ reservedNames) ∧
    (∀ schema ∈ ConfigDocument.styleSchemas, ∀ path value checked,
      ConfigDocument.checkStyles schema.1 path value = .ok checked →
        ∀ entry ∈ roleSamples checked, schema.2.HasRole entry.1) ∧
    ∀ base value option, buildConfig base value ≠ .error (.style (.unknownRole option)) := by
  refine ⟨Bundle.restylesExactly_iff nodup, ?_, buildConfig_ne_unknownRole⟩
  intro schema member path value checked ran
  refine ConfigDocument.hasRole_of_keys ?_
  rw [ConfigDocument.keys_of_checkStyles ran]
  exact member

open Ident (Bundle) in
/-- An example for a role that only another bundle has is reported, after one that is used and an
entry without an example. -/
theorem enumType_reported :
    let samples := [("field", some "mFooBar"), ("local", none), ("enumType", some "FooBar")]
    (samples.map (·.1)).Nodup ∧
      Bundle.RestylesExactly "objc.ident_style" .objc samples
        (Bundle.restyle "objc.ident_style" .objc samples) ∧
      Bundle.restyle "objc.ident_style" .objc samples =
        .error (.unknownRole "objc.ident_style.enumType") := by
  intro samples
  have nodup : (samples.map (·.1)).Nodup := by decide
  have free : ∀ entry ∈ samples, entry.1 ∉ Ident.reservedNames := by decide
  have exactly := (bundles_restyled_exactly_iff nodup "objc.ident_style" .objc).1.2 <| by
    rintro name sample ⟨front, rest, split, -⟩
    exact free (name, some sample) (by rw [split]; simp)
  have first : Bundle.FirstUnusable .objc samples "enumType" "FooBar" :=
    ⟨[("field", some "mFooBar"), ("local", none)], [], rfl, by decide +kernel, by decide +kernel⟩
  exact ⟨nodup, exactly, (exactly.reports "enumType" "FooBar" first).1⟩

/-- An example for a reserved name is used although no bundle has the role. -/
theorem toString_taken_for_role :
    ¬ Ident.Bundle.RestylesExactly "cpp.ident_style" .cpp [("toString", some "FooBar")]
      (Ident.Bundle.restyle "cpp.ident_style" .cpp [("toString", some "FooBar")]) := by
  intro exactly
  have usable := exactly.succeeds.1 ⟨_, rfl⟩ _ List.mem_cons_self
  exact absurd usable (by decide +kernel)

end BridgeCode
