import BridgeCode.Proofs.Target.HeaderText

/-!
What the text of a header depends on.

The header of a declaration mentions other declarations, and how it spells them depends on their
kinds. Nothing else of the other declarations goes into it: two indexes that give the names in the
types of a declaration the same kinds give its header the same text (`CppTarget.script_decl_eq`,
`ObjcTarget.script_decl_eq`). The order of declarations with different names makes no difference to
their kinds, so that the steps of a slot are the same steps in another order
(`Slot.backendSteps_perm`).
-/

namespace BridgeCode

namespace DeclIndex

theorem kind?_add (index : DeclIndex) (name : String) (kind : DeclKind) (other : String) :
    (index.add name kind).kind? other = if other = name then some kind else index.kind? other := by
  unfold kind?
  induction index with
  | nil =>
      by_cases same : other = name
      · simp [add, same]
      · simp [add, List.lookup_cons, same, beq_eq_false_iff_ne.2 same]
  | cons entry index ih =>
      obtain ⟨n, k⟩ := entry
      by_cases here : n = name
      · subst here
        by_cases same : other = n
        · simp [add, same]
        · simp [add, List.lookup_cons, same, beq_eq_false_iff_ne.2 same]
      · by_cases same : other = n
        · subst same
          simp [add, here]
        · simp [add, List.lookup_cons, here, beq_eq_false_iff_ne.2 same, ih]

/-- Declarations with different names that are added to an index have their kinds in it, and other
names have the kinds they had. -/
theorem kind?_foldl_add {decls : List TypeDecl} (nodup : (decls.map (·.name)).Nodup)
    (index : DeclIndex) (name : String) (kind : DeclKind) :
    (decls.foldl (fun index decl => index.add decl.name decl.body.kind) index).kind? name =
        some kind ↔
      (∃ decl ∈ decls, decl.name = name ∧ decl.body.kind = kind) ∨
        (∀ decl ∈ decls, decl.name ≠ name) ∧ index.kind? name = some kind := by
  induction decls generalizing index with
  | nil => simp
  | cons decl decls ih =>
      rw [List.map_cons, List.nodup_cons] at nodup
      rw [List.foldl_cons, ih nodup.2, kind?_add]
      by_cases here : decl.name = name
      · have apart : ∀ other ∈ decls, other.name ≠ name := by
          intro other member same
          exact nodup.1 (List.mem_map.2 ⟨other, member, same.trans here.symm⟩)
        have others : ¬ ∃ other ∈ decls, other.name = name ∧ other.body.kind = kind := by
          rintro ⟨other, member, same, -⟩
          exact apart other member same
        simpa [here, others] using fun _ => apart
      · simp [here, Ne.symm here]

/-- The kind of a name is the kind of the declaration that has the name. -/
theorem kind?_ofDecls {decls : List TypeDecl} (nodup : (decls.map (·.name)).Nodup) (name : String)
    (kind : DeclKind) :
    (ofDecls decls).kind? name = some kind ↔
      ∃ decl ∈ decls, decl.name = name ∧ decl.body.kind = kind := by
  rw [ofDecls, kind?_foldl_add nodup]
  simp [kind?]

/-- Every name has the same kind in both indexes. -/
abbrev SameKinds (index index' : DeclIndex) : Prop :=
  ∀ name, index'.kind? name = index.kind? name

/-- Declarations with different names have the same kinds in any order. -/
theorem sameKinds_of_perm {decls decls' : List TypeDecl} (nodup : (decls.map (·.name)).Nodup)
    (perm : decls.Perm decls') : (ofDecls decls).SameKinds (ofDecls decls') := by
  intro name
  have nodup' : (decls'.map (·.name)).Nodup := (perm.map _).nodup_iff.1 nodup
  refine Option.ext fun kind => ?_
  rw [kind?_ofDecls nodup', kind?_ofDecls nodup]
  simp only [perm.mem_iff]

end DeclIndex

/-! ## Names in types -/

theorem TypeRef.referencedList_eq (refs : List TypeRef) :
    referencedList refs = refs.flatMap referenced := by
  induction refs with
  | nil => rfl
  | cons ref refs ih => rw [referencedList, ih, List.flatMap_cons]

theorem TypeRef.name_mem_referenced (ref : TypeRef) : ref.name ∈ ref.referenced := by
  obtain ⟨name, args⟩ := ref
  rw [referenced]
  exact List.mem_cons_self

/-- The names in the types that a declaration mentions. -/
def TypeDecl.mentions (decl : TypeDecl) : List String := decl.references.flatMap (·.referenced)

namespace DeclIndex

/-- The names have the same kinds in both indexes. -/
def AgreeOn (index index' : DeclIndex) (names : List String) : Prop :=
  ∀ name ∈ names, index'.kind? name = index.kind? name

variable {index index' : DeclIndex}

theorem AgreeOn.of_mem {refs : List TypeRef}
    (agree : index.AgreeOn index' (refs.flatMap (·.referenced))) {ref : TypeRef}
    (member : ref ∈ refs) : index.AgreeOn index' ref.referenced :=
  fun name occurs => agree name (List.mem_flatMap.2 ⟨ref, member, occurs⟩)

theorem AgreeOn.of_arg {name : String} {args : List TypeRef}
    (agree : index.AgreeOn index' (TypeRef.mk name args).referenced) {arg : TypeRef}
    (member : arg ∈ args) : index.AgreeOn index' arg.referenced := by
  intro other occurs
  refine agree other ?_
  rw [TypeRef.referenced, TypeRef.referencedList_eq]
  exact List.mem_cons_of_mem _ (List.mem_flatMap.2 ⟨arg, member, occurs⟩)

theorem AgreeOn.kind?_eq {ref : TypeRef} (agree : index.AgreeOn index' ref.referenced) :
    index'.kind? ref.name = index.kind? ref.name :=
  agree ref.name ref.name_mem_referenced

end DeclIndex

/-! ## Bodies that go through a list -/

theorem forM_congr {m : Type → Type} [Monad m] {α : Type} {items : List α} {f g : α → m PUnit}
    (same : ∀ item ∈ items, f item = g item) : items.forM f = items.forM g := by
  induction items with
  | nil => rfl
  | cons item items ih =>
      rw [List.forall_mem_cons] at same
      have unfolded : ∀ h : α → m PUnit,
          (item :: items).forM h = h item >>= fun _ => items.forM h := fun _ => rfl
      rw [unfolded, unfolded, same.1, ih same.2]

theorem mapM_congr {m : Type → Type} [Monad m] [LawfulMonad m] {α β : Type} {items : List α}
    {f g : α → m β} (same : ∀ item ∈ items, f item = g item) : items.mapM f = items.mapM g := by
  induction items with
  | nil => rfl
  | cons item items ih =>
      rw [List.forall_mem_cons] at same
      rw [List.mapM_cons, List.mapM_cons, same.1, ih same.2]

namespace Render

theorem alignedCall_congr {α : Type} {call closing delimiter : String} {params : List α}
    {render render' : α → Writing String}
    (same : ∀ param ∈ params, render param = render' param) :
    alignedCall call params closing render delimiter =
      alignedCall call params closing render' delimiter := by
  cases params with
  | nil => rfl
  | cons first rest =>
      rw [List.forall_mem_cons] at same
      unfold alignedCall
      dsimp only
      rw [same.1, forM_congr fun param member => by rw [same.2 param member]]

theorem alignedKeywordCall_congr {α : Type} {call closing : String} {params : List α}
    {render render' : α → Writing (String × String)}
    (same : ∀ param ∈ params, render param = render' param) :
    alignedKeywordCall call params closing render =
      alignedKeywordCall call params closing render' := by
  cases params with
  | nil => rfl
  | cons first rest =>
      rw [List.forall_mem_cons] at same
      unfold alignedKeywordCall
      dsimp only
      rw [same.1, forM_congr fun param member => by rw [same.2 param member]]

end Render

/-! ## C++ headers -/

namespace CppTarget

variable {config : CppConfig} {index index' : DeclIndex}

theorem spellWith_eq {name : String} (same : index'.kind? name = index.kind? name)
    (typeParams : List String) (args : List (Except GenerateError String)) :
    spellWith ⟨config, index'⟩ typeParams name args =
      spellWith ⟨config, index⟩ typeParams name args := by
  simp only [spellWith, same]

mutual

theorem typeName_eq (typeParams : List String) : ∀ ref : TypeRef,
    index.AgreeOn index' ref.referenced →
    typeName ⟨config, index'⟩ typeParams ref = typeName ⟨config, index⟩ typeParams ref
  | .mk name args, agree => by
      have same : index'.kind? name = index.kind? name := agree.kind?_eq
      rw [typeName, typeName, typeNames_eq typeParams args fun _ => agree.of_arg,
        spellWith_eq same]

theorem typeNames_eq (typeParams : List String) : ∀ refs : List TypeRef,
    (∀ ref ∈ refs, index.AgreeOn index' ref.referenced) →
    typeNames ⟨config, index'⟩ typeParams refs = typeNames ⟨config, index⟩ typeParams refs
  | [], _ => rfl
  | ref :: refs, agree => by
      rw [List.forall_mem_cons] at agree
      rw [typeNames, typeNames, typeName_eq typeParams ref agree.1,
        typeNames_eq typeParams refs agree.2]

end

theorem includesOfName_eq {name : String} (same : index'.kind? name = index.kind? name)
    (self : String) (typeParams : List String) :
    includesOfName ⟨config, index'⟩ self typeParams name =
      includesOfName ⟨config, index⟩ self typeParams name := by
  unfold includesOfName
  split
  case h_15 => rw [same]
  all_goals rfl

mutual

theorem includesOf_eq (self : String) (typeParams : List String) : ∀ ref : TypeRef,
    index.AgreeOn index' ref.referenced →
    includesOf ⟨config, index'⟩ self typeParams ref = includesOf ⟨config, index⟩ self typeParams ref
  | .mk name args, agree => by
      have same : index'.kind? name = index.kind? name := agree.kind?_eq
      rw [includesOf, includesOf, includesOfAll_eq self typeParams args fun _ => agree.of_arg,
        includesOfName_eq same]

theorem includesOfAll_eq (self : String) (typeParams : List String) : ∀ refs : List TypeRef,
    (∀ ref ∈ refs, index.AgreeOn index' ref.referenced) →
    includesOfAll ⟨config, index'⟩ self typeParams refs =
      includesOfAll ⟨config, index⟩ self typeParams refs
  | [], _ => rfl
  | ref :: refs, agree => by
      rw [List.forall_mem_cons] at agree
      rw [includesOfAll, includesOfAll, includesOf_eq self typeParams ref agree.1,
        includesOfAll_eq self typeParams refs agree.2]

end

theorem recordBody_eq {fields : List Field}
    (agree : ∀ field ∈ fields, index.AgreeOn index' field.type.referenced) (name : String)
    (doc : Doc) (params : List String) :
    recordBody ⟨config, index'⟩ name doc params fields =
      recordBody ⟨config, index⟩ name doc params fields := by
  have typed : ∀ field ∈ fields, ∀ name,
      typed ⟨config, index'⟩ params field name = typed ⟨config, index⟩ params field name := by
    intro field member name
    rw [CppTarget.typed, CppTarget.typed, typeName_eq params field.type (agree field member)]
  unfold recordBody constructorOf
  dsimp only
  rw [forM_congr fun field member => by rw [typed field member],
    Render.alignedCall_congr fun field member => typed field member _]

theorem methodSignature_eq {method : Method}
    (agree : ∀ ref ∈ method.types, index.AgreeOn index' ref.referenced) (params : List String) :
    methodSignature ⟨config, index'⟩ params method =
      methodSignature ⟨config, index⟩ params method := by
  have ret : ∀ ref ∈ method.ret,
      typeName ⟨config, index'⟩ params ref = typeName ⟨config, index⟩ params ref := by
    intro ref member
    exact typeName_eq params ref
      (agree ref (List.mem_append_right _ (Option.mem_toList.2 member)))
  have paramType : ∀ param ∈ method.params,
      paramType ⟨config, index'⟩ params param.type =
        paramType ⟨config, index⟩ params param.type := by
    intro param member
    have agree := agree param.type (List.mem_append_left _ (List.mem_map_of_mem member))
    unfold CppTarget.paramType
    rw [typeName_eq params param.type agree, agree.kind?_eq]
  unfold methodSignature
  dsimp only
  rw [mapM_congr fun param member => by rw [paramType param member]]
  cases result : method.ret with
  | none => rfl
  | some ref =>
      dsimp only
      rw [ret ref result]

theorem interfaceBody_eq {methods : List Method}
    (agree : ∀ ref ∈ methods.flatMap (·.types), index.AgreeOn index' ref.referenced)
    (name : String) (doc : Doc) (params : List String) :
    interfaceBody ⟨config, index'⟩ name doc params methods =
      interfaceBody ⟨config, index⟩ name doc params methods := by
  have signature : ∀ method ∈ methods,
      methodSignature ⟨config, index'⟩ params method =
        methodSignature ⟨config, index⟩ params method := by
    intro method member
    refine methodSignature_eq (fun ref mentioned => ?_) params
    exact agree ref (List.mem_flatMap.2 ⟨method, member, mentioned⟩)
  unfold interfaceBody
  dsimp only
  rw [forM_congr fun method member => by rw [signature method member]]

/-- The header of a declaration goes by the kinds of the names in its types only. -/
theorem script_decl_eq {decl : TypeDecl} (agree : index.AgreeOn index' decl.mentions)
    (folder : String) :
    (script ⟨config, index'⟩ folder).decl decl = (script ⟨config, index⟩ folder).decl decl := by
  have agree : ∀ ref ∈ decl.references, index.AgreeOn index' ref.referenced :=
    fun _ => agree.of_mem
  unfold TypeDecl.references at agree
  unfold Script.decl
  cases body : decl.body with
  | enum body => rfl
  | record fields =>
      rw [body] at agree
      have each : ∀ field ∈ fields, index.AgreeOn index' field.type.referenced :=
        fun field member => agree field.type (List.mem_map_of_mem member)
      simp only [script, recordHeader, recordIncludes, recordBody_eq each,
        includesOfAll_eq _ _ _ agree]
      rfl
  | interface methods =>
      rw [body] at agree
      simp only [script, interfaceHeader, interfaceIncludes, interfaceBody_eq agree,
        includesOfAll_eq _ _ _ agree]
      rfl
  | unsupported kind raw => rfl

end CppTarget

/-! ## Objective-C headers -/

namespace ObjcTarget

variable {config : ObjcConfig} {index index' : DeclIndex}

theorem typeWith_eq {name : String} (same : index'.kind? name = index.kind? name)
    (args : List (Except GenerateError ObjcType)) :
    typeWith ⟨config, index'⟩ name args = typeWith ⟨config, index⟩ name args := by
  simp only [typeWith, same]

mutual

theorem typeOf_eq : ∀ ref : TypeRef, index.AgreeOn index' ref.referenced →
    typeOf ⟨config, index'⟩ ref = typeOf ⟨config, index⟩ ref
  | .mk name args, agree => by
      have same : index'.kind? name = index.kind? name := agree.kind?_eq
      rw [typeOf, typeOf, typesOf_eq args fun _ => agree.of_arg, typeWith_eq same]

theorem typesOf_eq : ∀ refs : List TypeRef,
    (∀ ref ∈ refs, index.AgreeOn index' ref.referenced) →
    typesOf ⟨config, index'⟩ refs = typesOf ⟨config, index⟩ refs
  | [], _ => rfl
  | ref :: refs, agree => by
      rw [List.forall_mem_cons] at agree
      rw [typesOf, typesOf, typeOf_eq ref agree.1, typesOf_eq refs agree.2]

end

theorem keywordParam_eq {param : Field} (agree : index.AgreeOn index' param.type.referenced) :
    keywordParam ⟨config, index'⟩ param = keywordParam ⟨config, index⟩ param := by
  simp only [keywordParam, paramType, typeOf_eq param.type agree]

theorem recordBody_eq {fields : List Field}
    (agree : ∀ field ∈ fields, index.AgreeOn index' field.type.referenced) (name : String)
    (doc : Doc) :
    recordBody ⟨config, index'⟩ name doc fields = recordBody ⟨config, index⟩ name doc fields := by
  have initializer : ∀ lead, initializer ⟨config, index'⟩ lead fields =
      initializer ⟨config, index⟩ lead fields := by
    intro lead
    have params : ∀ field ∈ fields,
        keywordParam ⟨config, index'⟩ field = keywordParam ⟨config, index⟩ field :=
      fun field member => keywordParam_eq (agree field member)
    unfold ObjcTarget.initializer
    cases fields with
    | nil => rfl
    | cons first rest =>
        dsimp only
        rw [Render.alignedKeywordCall_congr params]
  have property : ∀ field ∈ fields,
      property ⟨config, index'⟩ field = property ⟨config, index⟩ field := by
    intro field member
    simp only [ObjcTarget.property, typeOf_eq field.type (agree field member)]
  unfold recordBody
  dsimp only
  rw [initializer, initializer, forM_congr property]

theorem method_eq {method : Method}
    (agree : ∀ ref ∈ method.types, index.AgreeOn index' ref.referenced) :
    ObjcTarget.method ⟨config, index'⟩ method = ObjcTarget.method ⟨config, index⟩ method := by
  have params : ∀ param ∈ method.params,
      keywordParam ⟨config, index'⟩ param = keywordParam ⟨config, index⟩ param :=
    fun param member =>
      keywordParam_eq (agree param.type (List.mem_append_left _ (List.mem_map_of_mem member)))
  have ret : ∀ ref ∈ method.ret,
      typeOf ⟨config, index'⟩ ref = typeOf ⟨config, index⟩ ref := by
    intro ref member
    exact typeOf_eq ref (agree ref (List.mem_append_right _ (Option.mem_toList.2 member)))
  unfold ObjcTarget.method paramType
  dsimp only
  cases result : method.ret with
  | none => simp only [Render.alignedKeywordCall_congr params]
  | some ref => simp only [ret ref result, Render.alignedKeywordCall_congr params]

theorem interfaceBody_eq {methods : List Method}
    (agree : ∀ ref ∈ methods.flatMap (·.types), index.AgreeOn index' ref.referenced)
    (name : String) (doc : Doc) :
    interfaceBody ⟨config, index'⟩ name doc methods =
      interfaceBody ⟨config, index⟩ name doc methods := by
  have each : ∀ method ∈ methods,
      ObjcTarget.method ⟨config, index'⟩ method = ObjcTarget.method ⟨config, index⟩ method := by
    intro method member
    refine method_eq fun ref mentioned => ?_
    exact agree ref (List.mem_flatMap.2 ⟨method, member, mentioned⟩)
  unfold interfaceBody
  dsimp only
  rw [forM_congr fun method member => by rw [each method member]]

theorem importLines_eq {refs : List TypeRef}
    (agree : index.AgreeOn index' (refs.flatMap (·.referenced))) (name : String) :
    importLines ⟨config, index'⟩ name refs = importLines ⟨config, index⟩ name refs := by
  unfold importLines
  dsimp only
  rw [List.filter_congr fun other occurs => by rw [agree other occurs]]

/-- The header of a declaration goes by the kinds of the names in its types only. -/
theorem script_decl_eq {decl : TypeDecl} (agree : index.AgreeOn index' decl.mentions)
    (folder : String) :
    (script ⟨config, index'⟩ folder).decl decl = (script ⟨config, index⟩ folder).decl decl := by
  have imports := fun name => @importLines_eq config index index' decl.references agree name
  have agree : ∀ ref ∈ decl.references, index.AgreeOn index' ref.referenced :=
    fun _ => agree.of_mem
  unfold TypeDecl.references at agree imports
  unfold Script.decl
  cases body : decl.body with
  | enum body => rfl
  | record fields =>
      rw [body] at agree imports
      have each : ∀ field ∈ fields, index.AgreeOn index' field.type.referenced :=
        fun field member => agree field.type (List.mem_map_of_mem member)
      simp only [script, headerText, imports, recordBody_eq each]
  | interface methods =>
      rw [body] at agree imports
      simp only [script, headerText, imports, interfaceBody_eq agree]
  | unsupported kind raw => rfl

end ObjcTarget

/-! ## The steps of a slot -/

/-- In another order, declarations with different names ask for the same steps in another order. -/
theorem Slot.backendSteps_perm [YamlPackage] (config : Config) {decls decls' : List TypeDecl}
    (nodup : (decls.map (·.name)).Nodup) (perm : decls.Perm decls') (slot : Slot) :
    (slot.backendSteps config decls).Perm (slot.backendSteps config decls') := by
  have kinds := DeclIndex.sameKinds_of_perm nodup perm
  cases slot with
  | cpp =>
      dsimp only [backendSteps]
      cases requireSetting "C++ header folder" config.cpp.headerOutFolder with
      | error error => exact .refl _
      | ok folder =>
          dsimp only
          have same := funext fun decl => @CppTarget.script_decl_eq config.cpp _ _ decl
            (fun name _ => kinds name) folder
          rw [same]
          exact perm.flatMap_right _
  | objc =>
      dsimp only [backendSteps]
      cases requireSetting "Objective-C header folder" config.objc.headerOutFolder with
      | error error => exact .refl _
      | ok folder =>
          dsimp only
          have same := funext fun decl => @ObjcTarget.script_decl_eq config.objc _ _ decl
            (fun name _ => kinds name) folder
          rw [same]
          exact perm.flatMap_right _
  | swiftBridgingHeader =>
      dsimp only [backendSteps]
      cases requireSetting "Objective-C header folder" config.objc.headerOutFolder with
      | error error => exact .refl _
      | ok folder =>
          dsimp only
          cases requireSetting "Swift bridging header name" config.objc.swiftBridgingHeaderName with
          | error error => exact .refl _
          | ok name => exact (perm.flatMap_right _).append_left _
  | yaml =>
      dsimp only [backendSteps]
      cases requireSetting "YAML folder" config.yaml.outFolder with
      | error error => exact .refl _
      | ok folder => exact perm.flatMap_right _
  | _ => exact .refl _

end BridgeCode
