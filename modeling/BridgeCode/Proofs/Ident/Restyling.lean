import BridgeCode.Proofs.Config.Loading

/-!
Bundles with examples.

An example replaces the converter of a role. The examples are looked at one after another, and each
of them is used, ignored or reported (`Bundle.restyleStep`). `Bundle.Restyles` says what a row of
usable examples changes, and `Bundle.RestylesExactly` what may come of any row: the first example
that cannot be used is reported, as one for an unknown role unless the bundle has the role. An
example for a reserved name escapes that, and nothing else does (`restylesExactly_iff`).
-/

namespace BridgeCode.Ident

theorem Role.name_injective : Function.Injective Role.name := by
  intro role other
  cases role <;> cases other <;> simp [Role.name]

theorem Role.name_not_mem_reservedNames (role : Role) : role.name ∉ reservedNames := by
  cases role <;> decide

theorem resolveExample_of_infer {sample : String} {converter : Converter}
    (inferred : infer sample = some converter) (option : String) :
    resolveExample option sample = .ok converter := by
  rw [resolveExample, inferred]

theorem resolveExample_of_not_infer {sample : String} (bad : ¬ (infer sample).isSome)
    (option : String) : resolveExample option sample = .error (.badExample option sample) := by
  rw [resolveExample, Option.not_isSome_iff_eq_none.1 bad]

theorem resolveExample_ne_unknownRole {option sample unknown : String} :
    resolveExample option sample ≠ .error (.unknownRole unknown) := by
  unfold resolveExample
  split <;> nofun

namespace Bundle

variable {scope : String} {bundle : Bundle}

/-! ## One example -/

/-- The bundle has a role of this name. -/
def HasRole (bundle : Bundle) (name : String) : Prop := ∃ role ∈ bundle.roles, role.name = name

instance (bundle : Bundle) (name : String) : Decidable (bundle.HasRole name) :=
  inferInstanceAs (Decidable (∃ role ∈ bundle.roles, role.name = name))

theorem role?_name {role : Role} (member : role ∈ bundle.roles) :
    bundle.role? role.name = some role := by
  cases found : bundle.role? role.name with
  | none => exact absurd (List.find?_eq_none.1 found role member) (by simp)
  | some other =>
      have same : other.name = role.name := by simpa using List.find?_some found
      rw [Role.name_injective same]

theorem role?_of_not_hasRole {name : String} (absent : ¬ bundle.HasRole name) :
    bundle.role? name = none :=
  List.find?_eq_none.2 fun role member same => absent ⟨role, member, by simpa using same⟩

theorem not_hasRole_of_reserved {name : String} (reserved : name ∈ reservedNames) :
    ¬ bundle.HasRole name := by
  rintro ⟨role, -, rfl⟩
  exact role.name_not_mem_reservedNames reserved

/-- What one entry does. -/
def restyleStep (scope : String) (bundle : Bundle) (before : Restyled) :
    String × Option String → Except StyleError Restyled :=
  fun (name, sample?) =>
    match sample? with
    | none => .ok before
    | some sample =>
      let option := scope ++ "." ++ name
      match bundle.role? name with
      | some role => do
        let converter ← resolveExample option sample
        return { before with bundle := before.bundle.set role converter }
      | none =>
        if reservedNames.contains name then do
          let converter ← resolveExample option sample
          if name = "__proto__" then return before
          return { before with reserved := before.reserved ++ [(name, converter)] }
        else
          .error (.unknownRole option)

theorem restyle_eq_foldlM (scope : String) (bundle : Bundle) (samples : StyleSamples) :
    bundle.restyle scope samples = samples.foldlM (bundle.restyleStep scope) { bundle } := rfl

theorem restyleStep_role {role : Role} (member : role ∈ bundle.roles) (before : Restyled)
    (sample : String) :
    bundle.restyleStep scope before (role.name, some sample) = do
      let converter ← resolveExample (scope ++ "." ++ role.name) sample
      return { before with bundle := before.bundle.set role converter } := by
  simp only [restyleStep, role?_name member]

theorem restyleStep_reserved {name : String} (reserved : name ∈ reservedNames) (before : Restyled)
    (sample : String) :
    bundle.restyleStep scope before (name, some sample) = do
      let converter ← resolveExample (scope ++ "." ++ name) sample
      if name = "__proto__" then return before
      return { before with reserved := before.reserved ++ [(name, converter)] } := by
  simp only [restyleStep, role?_of_not_hasRole (not_hasRole_of_reserved reserved),
    if_pos (List.contains_iff_mem.2 reserved)]

theorem restyleStep_unknown {name : String} (absent : ¬ bundle.HasRole name)
    (free : name ∉ reservedNames) (before : Restyled) (sample : String) :
    bundle.restyleStep scope before (name, some sample) =
      .error (.unknownRole (scope ++ "." ++ name)) := by
  simp only [restyleStep, role?_of_not_hasRole absent]
  rw [if_neg (by simpa using free)]

/-- An entry without an example is ignored. Otherwise its name is that of a role, and the example
shows a converter. -/
def Usable (bundle : Bundle) : String × Option String → Prop
  | (_, none) => True
  | (name, some sample) => bundle.HasRole name ∧ (infer sample).isSome

instance (bundle : Bundle) : DecidablePred bundle.Usable
  | (_, none) => inferInstanceAs (Decidable True)
  | (_, some _) => inferInstanceAs (Decidable (_ ∧ _))

/-- How an example that cannot be used is reported. -/
def complaint (scope : String) (bundle : Bundle) (name sample : String) : StyleError :=
  if bundle.HasRole name then .badExample (scope ++ "." ++ name) sample
  else .unknownRole (scope ++ "." ++ name)

/-- What a row of examples changes: the converters of their roles and nothing else. -/
structure Restyles (bundle : Bundle) (samples : StyleSamples) (before after : Restyled) : Prop where
  reserved : after.reserved = before.reserved
  roles : after.bundle.roles = before.bundle.roles
  given : ∀ role ∈ bundle.roles, ∀ sample, (role.name, some sample) ∈ samples →
    infer sample = some (after.bundle.converter role)
  others : ∀ role, (∀ sample, (role.name, some sample) ∉ samples) →
    after.bundle.converter role = before.bundle.converter role

theorem Restyles.refl (restyled : Restyled) : Restyles bundle [] restyled restyled :=
  ⟨rfl, rfl, nofun, fun _ _ => rfl⟩

/-- A usable entry changes the converter of its role. -/
theorem restyles_of_usable {entry : String × Option String} (usable : bundle.Usable entry)
    (before : Restyled) :
    ∃ after, bundle.restyleStep scope before entry = .ok after ∧
      Restyles bundle [entry] before after := by
  obtain ⟨name, sample?⟩ := entry
  cases sample? with
  | none =>
      refine ⟨before, rfl, rfl, rfl, fun role _ sample given => ?_, fun _ _ => rfl⟩
      cases List.mem_singleton.1 given
  | some sample =>
      obtain ⟨⟨role, member, rfl⟩, inferable⟩ := usable
      obtain ⟨converter, inferred⟩ := Option.isSome_iff_exists.1 inferable
      refine ⟨{ before with bundle := before.bundle.set role converter }, ?_, rfl, rfl, ?_, ?_⟩
      · rw [restyleStep_role member, resolveExample_of_infer inferred]
        rfl
      · intro other _ otherSample given
        obtain ⟨sameName, sameSample⟩ := Prod.mk.inj (List.mem_singleton.1 given)
        obtain rfl := Role.name_injective sameName
        cases sameSample
        rw [inferred]
        exact congrArg some (if_pos rfl).symm
      · intro other absent
        refine if_neg ?_
        rintro rfl
        exact absent sample List.mem_cons_self

/-- An entry that cannot be used is reported, unless its name is reserved. -/
theorem restyleStep_of_not_usable {name sample : String}
    (unusable : ¬ bundle.Usable (name, some sample)) (free : name ∉ reservedNames)
    (before : Restyled) :
    bundle.restyleStep scope before (name, some sample) =
      .error (bundle.complaint scope name sample) := by
  unfold complaint
  split
  · next known =>
      have bad : ¬ (infer sample).isSome := fun inferable => unusable ⟨known, inferable⟩
      obtain ⟨role, member, rfl⟩ := known
      rw [restyleStep_role member, resolveExample_of_not_infer bad]
      rfl
  · next absent => exact restyleStep_unknown absent free before sample

/-- Only a name that is neither a role nor reserved is reported as unknown. -/
theorem unknown_of_restyleStep {entry : String × Option String} {before : Restyled}
    {option : String}
    (failed : bundle.restyleStep scope before entry = .error (.unknownRole option)) :
    ¬ bundle.HasRole entry.1 ∧ entry.1 ∉ reservedNames ∧ option = scope ++ "." ++ entry.1 := by
  obtain ⟨name, - | sample⟩ := entry
  · cases failed
  by_cases known : bundle.HasRole name
  · obtain ⟨role, member, rfl⟩ := known
    rw [restyleStep_role member] at failed
    rcases error_cases_of_bind failed with failed | ⟨converter, -, made⟩
    · exact absurd failed resolveExample_ne_unknownRole
    · cases made
  by_cases reserved : name ∈ reservedNames
  · rw [restyleStep_reserved reserved] at failed
    rcases error_cases_of_bind failed with failed | ⟨converter, -, made⟩
    · exact absurd failed resolveExample_ne_unknownRole
    · split at made <;> cases made
  · rw [restyleStep_unknown known reserved] at failed
    cases failed
    exact ⟨known, reserved, rfl⟩

/-! ## Rows of examples -/

/-- Entries for different roles change the converters of all of them. -/
theorem Restyles.cons {entry : String × Option String} {rest : StyleSamples}
    {before middle after : Restyled} (first : Restyles bundle [entry] before middle)
    (later : Restyles bundle rest middle after) (apart : entry.1 ∉ rest.map (·.1)) :
    Restyles bundle (entry :: rest) before after where
  reserved := later.reserved.trans first.reserved
  roles := later.roles.trans first.roles
  given role member sample given := by
    rcases List.mem_cons.1 given with rfl | given
    · -- No later entry has the name, so what the first one changed stays.
      have kept := later.others role fun other listed => apart (List.mem_map.2 ⟨_, listed, rfl⟩)
      rw [kept]
      exact first.given role member sample List.mem_cons_self
    · exact later.given role member sample given
  others role absent := by
    have kept := later.others role fun sample listed => absent sample (.tail _ listed)
    refine kept.trans (first.others role fun sample listed => absent sample ?_)
    exact List.mem_cons.2 (.inl (List.mem_singleton.1 listed))

/-- A row of usable entries changes the converters of their roles. -/
theorem restyles_of_all_usable {samples : StyleSamples} (nodup : (samples.map (·.1)).Nodup)
    (usable : ∀ entry ∈ samples, bundle.Usable entry) (before : Restyled) :
    ∃ after, samples.foldlM (bundle.restyleStep scope) before = .ok after ∧
      Restyles bundle samples before after := by
  induction samples generalizing before with
  | nil => exact ⟨before, rfl, .refl before⟩
  | cons entry rest ih =>
      obtain ⟨apart, nodup⟩ := List.nodup_cons.1 nodup
      obtain ⟨usable, usableRest⟩ := List.forall_mem_cons.1 usable
      obtain ⟨middle, ran, first⟩ := restyles_of_usable usable before
      obtain ⟨after, ranRest, later⟩ := ih nodup usableRest middle
      refine ⟨after, ?_, first.cons later apart⟩
      rw [List.foldlM_cons, ran]
      exact ranRest

/-- What a row of entries is reported for, one of them is. -/
theorem exists_failed_step {samples : StyleSamples} {before : Restyled} {error : StyleError}
    (failed : samples.foldlM (bundle.restyleStep scope) before = .error error) :
    ∃ entry ∈ samples, ∃ middle, bundle.restyleStep scope middle entry = .error error := by
  induction samples generalizing before with
  | nil => cases failed
  | cons entry rest ih =>
      rw [List.foldlM_cons] at failed
      rcases error_cases_of_bind failed with failed | ⟨middle, -, failed⟩
      · exact ⟨entry, List.mem_cons_self, before, failed⟩
      · obtain ⟨other, member, found⟩ := ih failed
        exact ⟨other, List.mem_cons_of_mem _ member, found⟩

/-- Only a name that is neither a role nor reserved is reported as unknown. -/
theorem unknown_of_restyle {samples : StyleSamples} {option : String}
    (failed : bundle.restyle scope samples = .error (.unknownRole option)) :
    ∃ entry ∈ samples, ¬ bundle.HasRole entry.1 ∧ entry.1 ∉ reservedNames ∧
      option = scope ++ "." ++ entry.1 := by
  obtain ⟨entry, member, middle, failed⟩ := exists_failed_step failed
  exact ⟨entry, member, unknown_of_restyleStep failed⟩

/-- The example is the first that cannot be used. -/
def FirstUnusable (bundle : Bundle) (samples : StyleSamples) (name sample : String) : Prop :=
  ∃ front rest, samples = front ++ (name, some sample) :: rest ∧
    (∀ entry ∈ front, bundle.Usable entry) ∧ ¬ bundle.Usable (name, some sample)

theorem exists_firstUnusable {samples : StyleSamples}
    (bad : ¬ ∀ entry ∈ samples, bundle.Usable entry) :
    ∃ name sample, bundle.FirstUnusable samples name sample := by
  induction samples with
  | nil => exact absurd nofun bad
  | cons entry rest ih =>
      by_cases usable : bundle.Usable entry
      · have later : ¬ ∀ entry ∈ rest, bundle.Usable entry := fun all =>
          bad (List.forall_mem_cons.2 ⟨usable, all⟩)
        obtain ⟨name, sample, front, rest, rfl, usableFront, unusable⟩ := ih later
        exact ⟨name, sample, entry :: front, rest, rfl,
          List.forall_mem_cons.2 ⟨usable, usableFront⟩, unusable⟩
      · obtain ⟨name, - | sample⟩ := entry
        · exact absurd trivial usable
        · exact ⟨name, sample, [], rest, rfl, nofun, usable⟩

theorem restyle_of_firstUnusable {samples : StyleSamples} (nodup : (samples.map (·.1)).Nodup)
    {name sample : String} (first : bundle.FirstUnusable samples name sample)
    (free : name ∉ reservedNames) :
    bundle.restyle scope samples = .error (bundle.complaint scope name sample) := by
  obtain ⟨front, rest, rfl, usable, unusable⟩ := first
  rw [List.map_append] at nodup
  obtain ⟨middle, ran, -⟩ :=
    @restyles_of_all_usable scope bundle front (List.nodup_append.1 nodup).1 usable { bundle }
  have failed : bundle.restyleStep scope middle (name, some sample) = _ :=
    restyleStep_of_not_usable unusable free middle
  calc bundle.restyle scope (front ++ (name, some sample) :: rest)
      = ((name, some sample) :: rest).foldlM (bundle.restyleStep scope) middle := by
        rw [restyle_eq_foldlM, List.foldlM_append, ran]
        rfl
    _ = .error (bundle.complaint scope name sample) := by
        rw [List.foldlM_cons, failed]
        rfl

/-- Restyling a bundle is exact: it succeeds exactly if all examples can be used, it then changes
the converters of their roles and nothing else, and otherwise it reports the first example that
cannot be used. -/
structure RestylesExactly (scope : String) (bundle : Bundle) (samples : StyleSamples)
    (result : Except StyleError Restyled) : Prop where
  succeeds : (∃ restyled, result = .ok restyled) ↔ ∀ entry ∈ samples, bundle.Usable entry
  restyles : ∀ restyled, result = .ok restyled → Restyles bundle samples { bundle } restyled
  reports : ∀ name sample, bundle.FirstUnusable samples name sample →
    result = .error (bundle.complaint scope name sample) ∧
      (ConfigError.style (bundle.complaint scope name sample)).code = .unknownIdentStyle

/-- Restyling is exact unless the first example that cannot be used is given for a reserved name. -/
theorem restylesExactly_iff {samples : StyleSamples} (nodup : (samples.map (·.1)).Nodup) :
    bundle.RestylesExactly scope samples (bundle.restyle scope samples) ↔
      ∀ name sample, bundle.FirstUnusable samples name sample → name ∉ reservedNames := by
  constructor
  · intro exactly name sample first reserved
    obtain ⟨failed, -⟩ := exactly.reports name sample first
    rw [complaint, if_neg (not_hasRole_of_reserved reserved)] at failed
    obtain ⟨entry, -, -, free, same⟩ := unknown_of_restyle failed
    obtain rfl : name = entry.1 := (String.append_right_inj _).1 same
    exact free reserved
  · intro free
    have reports {name sample} (first : bundle.FirstUnusable samples name sample) :
        bundle.restyle scope samples = .error (bundle.complaint scope name sample) :=
      restyle_of_firstUnusable nodup first (free name sample first)
    have usable {restyled} (ran : bundle.restyle scope samples = .ok restyled) :
        ∀ entry ∈ samples, bundle.Usable entry := by
      refine Decidable.byContradiction fun bad => ?_
      obtain ⟨name, sample, first⟩ := exists_firstUnusable bad
      cases ran.symm.trans (reports first)
    refine ⟨⟨fun ⟨restyled, ran⟩ => usable ran, fun all => ?_⟩, fun restyled ran => ?_,
      fun name sample first => ⟨reports first, rfl⟩⟩
    · obtain ⟨restyled, ran, -⟩ := restyles_of_all_usable nodup all { bundle }
      exact ⟨restyled, ran⟩
    · obtain ⟨other, ran', restyles⟩ := restyles_of_all_usable nodup (usable ran) { bundle }
      cases ran'.symm.trans ran
      exact restyles

end Bundle

end BridgeCode.Ident
