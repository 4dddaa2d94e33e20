import Mathlib.Algebra.Group.Int.Defs
import Mathlib.Algebra.GroupWithZero.Nat
import BridgeCode.Proofs.Number.Whole
import BridgeCode.Proofs.Render.Lines
import BridgeCode.Render.EnumOptions

/-!
The options of an enum in generated source.

* `encodeOptions_eq` names the entries of the three groups: the option for no flags, the ordinary
  options and the option for all flags.
* `options_kept_in_order`: if no marker stands twice, every option is there once, in this order, and
  is written on a line of its own below its doc.
* `flag_masks_consistent_iff`: the values of a flag enum are the bit masks that its expressions
  denote as long as they are exact in binary64. The value for all flags stops being so at 54
  ordinary options, a single bit at the 1025th.
-/

namespace BridgeCode

/-! ## Markers -/

namespace EnumBody

/-- The options with a marker. -/
def withMarker (body : EnumBody) (flag : SpecialFlag) : List EnumOption :=
  body.options.filter (·.special == some flag)

/-- No marker stands on two options. -/
def MarksOnce (body : EnumBody) : Prop := ∀ flag, (body.withMarker flag).length ≤ 1

/-- Options without a marker and options with each of the markers are all options. -/
theorem perm_options (body : EnumBody) :
    (body.withMarker .noFlags ++ body.normalOptions ++ body.withMarker .allFlags).Perm
      body.options := by
  obtain ⟨options, flags⟩ := body
  unfold withMarker normalOptions
  dsimp only
  induction options with
  | nil => exact .nil
  | cons option options ih =>
      refine .trans ?_ (ih.cons option)
      obtain ⟨name, doc, _ | _ | _⟩ := option
      · simp
      · simp
      · exact List.perm_middle

end EnumBody

namespace Render

theorem toList_marked? {body : EnumBody} (once : body.MarksOnce) (flag : SpecialFlag) :
    (marked? body flag).toList = body.withMarker flag := by
  have single := once flag
  have first : marked? body flag = (body.withMarker flag).head? := List.head?_filter.symm
  rw [first]
  generalize body.withMarker flag = options at single
  rcases options with _ | ⟨option, _ | ⟨other, rest⟩⟩
  · rfl
  · rfl
  · simp at single

theorem special_of_marked? {body : EnumBody} {flag : SpecialFlag} {option : EnumOption}
    (found : marked? body flag = some option) : option.special = some flag := by
  simpa using List.find?_some found

/-! ## The entries -/

/-- The entry for no flags. -/
def noFlagsEntry (spell : String → String) (option : EnumOption) : EncodedOption where
  option := option
  name := spell option.name
  value := some (.zero false)
  expr := some "0"

/-- The entry of an ordinary option. -/
def ordinaryEntry (spell : String → String) (flags : Bool) (shift : Nat) (option : EnumOption) :
    EncodedOption where
  option := option
  name := spell option.name
  value := if flags then some (.ofNat (2 ^ shift)) else none
  expr := if flags then some ("1 << " ++ toString shift) else none

/-- The entry for all flags. -/
def allFlagsEntry (spell : String → String) (body : EnumBody) (option : EnumOption) :
    EncodedOption where
  option := option
  name := spell option.name
  value := if body.flags then some (.ofNat (2 ^ body.normalOptions.length - 1)) else none
  expr := some <|
    if body.normalOptions.isEmpty then "0"
    else " | ".intercalate (body.normalOptions.map fun option => spell option.name)

/-- The entries of the ordinary options. -/
def ordinaryEntries (spell : String → String) (body : EnumBody) : List EncodedOption :=
  body.normalOptions.mapIdx (ordinaryEntry spell body.flags)

theorem encodeOptions_eq (spell : String → String) (body : EnumBody) :
    encodeOptions spell body =
      ((marked? body .noFlags).map (noFlagsEntry spell)).toList ++ ordinaryEntries spell body ++
        ((marked? body .allFlags).map (allFlagsEntry spell body)).toList := by
  unfold encodeOptions ordinaryEntries ordinaryEntry allFlagsEntry
  cases body.flags <;> rfl

theorem getElem?_ordinaryEntries (spell : String → String) (body : EnumBody) (k : Nat) :
    (ordinaryEntries spell body)[k]? =
      body.normalOptions[k]?.map (ordinaryEntry spell body.flags k) :=
  List.getElem?_mapIdx

theorem map_ordinaryEntries {α : Type} (spell : String → String) (body : EnumBody)
    (view : EncodedOption → α) (plain : EnumOption → α)
    (same : ∀ k option, view (ordinaryEntry spell body.flags k option) = plain option) :
    (ordinaryEntries spell body).map view = body.normalOptions.map plain := by
  refine List.ext_getElem? fun k => ?_
  rw [List.getElem?_map, List.getElem?_map, getElem?_ordinaryEntries, Option.map_map]
  exact congrArg (body.normalOptions[k]?.map ·) (funext (same k))

/-- An entry is one of the three kinds. -/
theorem mem_encodeOptions_iff {spell : String → String} {body : EnumBody} {entry : EncodedOption} :
    entry ∈ encodeOptions spell body ↔
      (∃ option, marked? body .noFlags = some option ∧ noFlagsEntry spell option = entry) ∨
      (∃ k option, body.normalOptions[k]? = some option ∧
        ordinaryEntry spell body.flags k option = entry) ∨
      (∃ option, marked? body .allFlags = some option ∧
        allFlagsEntry spell body option = entry) := by
  have ordinary : entry ∈ ordinaryEntries spell body ↔
      ∃ k option, body.normalOptions[k]? = some option ∧
        ordinaryEntry spell body.flags k option = entry := by
    simp only [List.mem_iff_getElem?, getElem?_ordinaryEntries, Option.map_eq_some_iff]
  rw [encodeOptions_eq, List.mem_append, List.mem_append, ordinary, or_assoc]
  simp only [Option.mem_toList, Option.map_eq_some_iff]

/-! ## Order, names and lines -/

/-- The line of an entry. -/
def EncodedOption.line (entry : EncodedOption) : String :=
  match entry.expr with
  | some expr => entry.name ++ " = " ++ expr ++ ","
  | none => entry.name ++ ","

theorem writesLines_enumOptions (spell : String → String) (body : EnumBody) :
    (enumOptions spell body).WritesLines
      ((encodeOptions spell body).flatMap fun entry =>
        docLines entry.option.doc ++ [entry.line]) := by
  refine .forM fun entry => .bind (writesLines_docComment _) ?_
  unfold EncodedOption.line
  cases entry.expr with
  | none => exact .line _
  | some expr => exact .line _

/-- The options of an enum in which no marker stands twice. Nothing is lost: the option for no flags
comes first, the ordinary options follow in source order, and the option for all flags comes last.
Every entry has the converted name of its option. In a flag enum the k-th ordinary option is
`1 << k`, else it has no value; the option for all flags is the union of the names of all ordinary
entries, which stand in front of it. Each entry is written on a line of its own, behind the doc of
its option. -/
theorem options_kept_in_order (spell : String → String) {body : EnumBody}
    (once : body.MarksOnce) :
    ∃ first ordinary last : List EncodedOption,
      encodeOptions spell body = first ++ ordinary ++ last ∧
      first.map (·.option) = body.withMarker .noFlags ∧
      ordinary.map (·.option) = body.normalOptions ∧
      last.map (·.option) = body.withMarker .allFlags ∧
      ((encodeOptions spell body).map (·.option)).Perm body.options ∧
      (∀ entry ∈ encodeOptions spell body, entry.name = spell entry.option.name) ∧
      (∀ entry ∈ first, entry.expr = some "0") ∧
      (∀ (k : Nat) (entry : EncodedOption), ordinary[k]? = some entry →
        entry.expr = if body.flags then some ("1 << " ++ toString k) else none) ∧
      (∀ entry ∈ last, entry.expr = some (if ordinary = [] then "0"
        else " | ".intercalate (ordinary.map (·.name)))) ∧
      (enumOptions spell body).WritesLines
        ((encodeOptions spell body).flatMap fun entry =>
          docLines entry.option.doc ++ [entry.line]) := by
  have options : (ordinaryEntries spell body).map (·.option) = body.normalOptions := by
    rw [map_ordinaryEntries spell body (·.option) id fun _ _ => rfl, List.map_id]
  have names : (ordinaryEntries spell body).map (·.name) =
      body.normalOptions.map fun option => spell option.name :=
    map_ordinaryEntries spell body (·.name) _ fun _ _ => rfl
  have first : ((marked? body .noFlags).map (noFlagsEntry spell)).toList.map (·.option) =
      body.withMarker .noFlags := by
    rw [← toList_marked? once]
    cases marked? body .noFlags <;> rfl
  have last : ((marked? body .allFlags).map (allFlagsEntry spell body)).toList.map (·.option) =
      body.withMarker .allFlags := by
    rw [← toList_marked? once]
    cases marked? body .allFlags <;> rfl
  refine ⟨_, _, _, encodeOptions_eq spell body, first, options, last, ?_, ?_, ?_, ?_, ?_,
    writesLines_enumOptions spell body⟩
  · rw [encodeOptions_eq, List.map_append, List.map_append, first, options, last]
    exact body.perm_options
  · intro entry member
    rcases mem_encodeOptions_iff.1 member with ⟨_, _, rfl⟩ | ⟨_, _, _, rfl⟩ | ⟨_, _, rfl⟩ <;> rfl
  · intro entry member
    obtain ⟨option, -, rfl⟩ := Option.map_eq_some_iff.1 (Option.mem_toList.1 member)
    rfl
  · intro k entry found
    rw [getElem?_ordinaryEntries] at found
    obtain ⟨option, -, rfl⟩ := Option.map_eq_some_iff.1 found
    rfl
  · intro entry member
    obtain ⟨option, -, rfl⟩ := Option.map_eq_some_iff.1 (Option.mem_toList.1 member)
    have empty : ordinaryEntries spell body = [] ↔ body.normalOptions.isEmpty := by
      rw [List.isEmpty_iff, ← options, List.map_eq_nil_iff]
    rw [names]
    simp only [empty]
    rfl

/-- A flag enum with its markers in the middle. -/
def accessFlags : EnumBody where
  options := [
    { name := "read", doc := [" Look."] },
    { name := "everything", special := some .allFlags },
    { name := "write" },
    { name := "nothing", doc := [" Keep", " out."], special := some .noFlags }]
  flags := true

theorem accessFlags_in_order :
    accessFlags.MarksOnce ∧
      ∃ first ordinary last : List EncodedOption,
        encodeOptions Text.upper accessFlags = first ++ ordinary ++ last ∧
        last.map (·.option.name) = ["everything"] ∧
        (∀ entry ∈ last, entry.expr = some "READ | WRITE") ∧
        (enumOptions Text.upper accessFlags).WritesLines
          ["/**", " * Keep", " * out.", " */", "NOTHING = 0,", "/** Look. */", "READ = 1 << 0,",
            "WRITE = 1 << 1,", "EVERYTHING = READ | WRITE,"] := by
  have once : accessFlags.MarksOnce := by
    intro flag
    cases flag <;> decide
  obtain ⟨first, ordinary, last, split, ofFirst, ofOrdinary, ofLast, -, names, -, -, unions,
    written⟩ := options_kept_in_order Text.upper once
  refine ⟨once, first, ordinary, last, split, ?_, ?_, ?_⟩
  · have named := congrArg (List.map (·.name)) ofLast
    rw [List.map_map] at named
    exact named
  · intro entry member
    have spelled : ordinary.map (·.name) = ordinary.map fun entry => Text.upper entry.option.name :=
      List.map_congr_left fun entry member => names entry (by rw [split]; simp [member])
    have options :
        ordinary.map (fun entry => Text.upper entry.option.name) = ["READ", "WRITE"] := by
      have applied := congrArg (List.map fun option => Text.upper option.name) ofOrdinary
      rw [List.map_map] at applied
      exact applied.trans (by decide)
    rw [unions entry member, if_neg, spelled, options]
    · rfl
    · rintro rfl
      cases ofOrdinary
  · exact written

/-! ## Values of flags -/

/-- The union of bit masks. -/
def union (masks : List Nat) : Nat := masks.foldl (· ||| ·) 0

/-- What a value denotes in source text, given the names that are known there. -/
inductive Denotes (known : List (String × Nat)) : String → Nat → Prop
  | zero : Denotes known "0" 0
  | shift (k : Nat) : Denotes known ("1 << " ++ toString k) (1 <<< k)
  | union {parts : List (String × Nat)} (nonempty : parts ≠ [])
      (each : ∀ part ∈ parts, part ∈ known) :
      Denotes known (" | ".intercalate (parts.map (·.1))) (union (parts.map (·.2)))

/-- The whole number that an entry reports. -/
def EncodedOption.reported? (entry : EncodedOption) : Option Int :=
  entry.value.bind Number.Binary64.toInt?

/-- The entries without a marker. -/
def unmarked (entries : List EncodedOption) : List EncodedOption :=
  entries.filter (·.option.special.isNone)

/-- The values of flags are bit masks. The ordinary entries report the given bits, the k-th of them
`2 ^ k`, which are all different and are what their expressions denote. The entry for no flags
reports zero. The entry for all flags reports the union of the bits, which is their sum and is what
its expression denotes. -/
structure FlagMasks (entries : List EncodedOption) (bits : List Nat) : Prop where
  reported : (unmarked entries).map (·.reported?) = bits.map fun bit : Nat => some (bit : Int)
  single : ∀ k bit : Nat, bits[k]? = some bit → bit = 2 ^ k
  distinct : bits.Nodup
  denoted : ∀ (k : Nat) (entry : EncodedOption), (unmarked entries)[k]? = some entry →
    ∃ expr, entry.expr = some expr ∧ Denotes [] expr (2 ^ k)
  noFlags : ∀ entry ∈ entries, entry.option.special = some .noFlags → entry.reported? = some 0
  allFlags : ∀ entry ∈ entries, entry.option.special = some .allFlags →
    entry.reported? = some ((union bits : Nat) : Int) ∧ union bits = bits.sum ∧
      ∃ expr, entry.expr = some expr ∧
        Denotes (((unmarked entries).map (·.name)).zip bits) expr (union bits)

/-- The first powers of two. -/
def firstBits (count : Nat) : List Nat := (List.range count).map (2 ^ ·)

@[simp]
theorem length_firstBits (count : Nat) : (firstBits count).length = count := by
  simp [firstBits]

theorem getElem?_firstBits {count k : Nat} (inside : k < count) :
    (firstBits count)[k]? = some (2 ^ k) := by
  simp [firstBits, inside]

theorem firstBits_succ (count : Nat) : firstBits (count + 1) = firstBits count ++ [2 ^ count] := by
  simp [firstBits, List.range_succ]

/-- The first powers of two make up the number of all ones, by union and by sum. -/
theorem union_firstBits (count : Nat) : union (firstBits count) = 2 ^ count - 1 := by
  induction count with
  | zero => rfl
  | succ count ih =>
      have positive := Nat.two_pow_pos count
      have disjoint : 2 ^ count * 1 + (2 ^ count - 1) = 2 ^ count * 1 ||| (2 ^ count - 1) :=
        Nat.two_pow_add_eq_or_of_lt (by omega) 1
      calc union (firstBits (count + 1))
          = union (firstBits count) ||| 2 ^ count := by
            rw [firstBits_succ, union, List.foldl_append]
            rfl
        _ = 2 ^ count * 1 + (2 ^ count - 1) := by rw [ih, Nat.or_comm, disjoint, Nat.mul_one]
        _ = 2 ^ (count + 1) - 1 := by
            rw [Nat.pow_succ]
            omega

theorem sum_firstBits (count : Nat) : (firstBits count).sum = 2 ^ count - 1 := by
  induction count with
  | zero => rfl
  | succ count ih =>
      have positive := Nat.two_pow_pos count
      rw [firstBits_succ, List.sum_append, ih, Nat.pow_succ]
      simp
      omega

theorem nodup_firstBits (count : Nat) : (firstBits count).Nodup := by
  refine List.pairwise_map.2 (List.nodup_range.imp fun different same => different ?_)
  exact (Nat.pow_right_inj (by decide)).1 same

theorem FlagMasks.bits_eq {entries : List EncodedOption} {bits : List Nat}
    (masks : FlagMasks entries bits) : bits = firstBits (unmarked entries).length := by
  have length : bits.length = (unmarked entries).length := by
    simpa using (congrArg List.length masks.reported).symm
  refine List.ext_getElem (by simpa using length) fun k inside _ => ?_
  have bit := masks.single k _ (List.getElem?_eq_getElem inside)
  rw [bit]
  simp [firstBits]

section Flags

variable {spell : String → String} {body : EnumBody}

theorem special_of_normal {k : Nat} {option : EnumOption}
    (found : body.normalOptions[k]? = some option) : option.special = none := by
  simpa using (List.mem_filter.1 (List.mem_of_getElem? found)).2

/-- The entries without a marker are those of the ordinary options. -/
theorem unmarked_encodeOptions :
    unmarked (encodeOptions spell body) = ordinaryEntries spell body := by
  have outside : ∀ {flag : SpecialFlag} (entry : EnumOption → EncodedOption),
      (∀ option, (entry option).option = option) →
      ((marked? body flag).map entry).toList.filter (·.option.special.isNone) = [] := by
    intro flag entry keeps
    cases found : marked? body flag with
    | none => rfl
    | some option => simp [keeps, special_of_marked? found]
  have inside : (ordinaryEntries spell body).filter (·.option.special.isNone) =
      ordinaryEntries spell body := by
    refine List.filter_eq_self.2 fun entry member => ?_
    obtain ⟨k, at_k⟩ := List.mem_iff_getElem?.1 member
    rw [getElem?_ordinaryEntries, Option.map_eq_some_iff] at at_k
    obtain ⟨option, found, rfl⟩ := at_k
    simp [ordinaryEntry, special_of_normal found]
  unfold unmarked
  rw [encodeOptions_eq, List.filter_append, List.filter_append, inside,
    outside (noFlagsEntry spell) fun _ => rfl, outside (allFlagsEntry spell body) fun _ => rfl,
    List.nil_append, List.append_nil]

theorem length_unmarked :
    (unmarked (encodeOptions spell body)).length = body.normalOptions.length := by
  rw [unmarked_encodeOptions, ordinaryEntries, List.length_mapIdx]

/-- The integer of the k-th ordinary option is that of a power of two in binary64. -/
theorem getElem?_reported (flags : body.flags = true) {k : Nat}
    (inside : k < body.normalOptions.length) :
    ((unmarked (encodeOptions spell body)).map (·.reported?))[k]? =
      some (Number.Binary64.ofNat (2 ^ k)).toInt? := by
  rw [unmarked_encodeOptions, List.getElem?_map, getElem?_ordinaryEntries,
    List.getElem?_eq_getElem inside, flags]
  rfl

theorem reported_allFlagsEntry (flags : body.flags = true) (option : EnumOption) :
    (allFlagsEntry spell body option).reported? =
      (Number.Binary64.ofNat (2 ^ body.normalOptions.length - 1)).toInt? := by
  unfold EncodedOption.reported? allFlagsEntry
  rw [flags]
  rfl

/-- A bit beyond the range of the format is not reported. -/
theorem FlagMasks.length_le {bits : List Nat}
    (masks : FlagMasks (encodeOptions spell body) bits) (flags : body.flags = true) :
    body.normalOptions.length ≤ 1024 := by
  apply Decidable.byContradiction
  intro many
  have inside : 1024 < body.normalOptions.length := by omega
  have reported := @getElem?_reported spell body flags 1024 inside
  rw [masks.reported, masks.bits_eq, length_unmarked, List.getElem?_map, getElem?_firstBits inside,
    Number.Binary64.toInt?_ofNat_two_pow_of_large (Nat.le_refl 1024)] at reported
  cases reported

/-- A union of more than 53 bits is rounded. -/
theorem FlagMasks.length_le_of_marked {bits : List Nat}
    (masks : FlagMasks (encodeOptions spell body) bits) (flags : body.flags = true)
    {option : EnumOption} (marked : marked? body .allFlags = some option) :
    body.normalOptions.length ≤ 53 := by
  apply Decidable.byContradiction
  intro many
  have positive := Nat.two_pow_pos body.normalOptions.length
  have member : allFlagsEntry spell body option ∈ encodeOptions spell body :=
    mem_encodeOptions_iff.2 (.inr (.inr ⟨option, marked, rfl⟩))
  have reported := (masks.allFlags _ member (special_of_marked? marked)).1
  rw [reported_allFlagsEntry flags, Number.Binary64.ofNat_two_pow_sub_one (by omega),
    masks.bits_eq, length_unmarked, union_firstBits] at reported
  by_cases inRange : body.normalOptions.length ≤ 1023
  · rw [Number.Binary64.toInt?_ofNat_two_pow inRange] at reported
    have same := Int.ofNat.inj (Option.some.inj reported)
    omega
  · rw [Number.Binary64.toInt?_ofNat_two_pow_of_large (by omega)] at reported
    cases reported

/-- Within these limits every value is exact. -/
theorem flagMasks_of_length_le (flags : body.flags = true)
    (bounded : body.normalOptions.length ≤ 53 ∨
      body.normalOptions.length ≤ 1024 ∧ marked? body .allFlags = none) :
    FlagMasks (encodeOptions spell body) (firstBits body.normalOptions.length) where
  reported := by
    refine List.ext_getElem? fun k => ?_
    by_cases inside : k < body.normalOptions.length
    · rw [getElem?_reported flags inside, Number.Binary64.toInt?_ofNat_two_pow (by omega),
        List.getElem?_map, getElem?_firstBits inside]
      rfl
    · have outside := Nat.not_lt.1 inside
      rw [List.getElem?_eq_none (by simpa [length_unmarked] using outside),
        List.getElem?_eq_none (by simpa using outside)]
  single k bit found := by
    have inside : k < body.normalOptions.length := by
      simpa using (List.getElem?_eq_some_iff.1 found).1
    rw [getElem?_firstBits inside] at found
    exact (Option.some.inj found).symm
  distinct := nodup_firstBits _
  denoted k entry found := by
    rw [unmarked_encodeOptions, getElem?_ordinaryEntries, Option.map_eq_some_iff] at found
    obtain ⟨option, -, rfl⟩ := found
    refine ⟨"1 << " ++ toString k, by simp [ordinaryEntry, flags], ?_⟩
    have shifted := @Denotes.shift [] k
    rwa [Nat.one_shiftLeft] at shifted
  noFlags entry member special := by
    rcases mem_encodeOptions_iff.1 member with
      ⟨option, -, rfl⟩ | ⟨k, option, found, rfl⟩ | ⟨option, marked, rfl⟩
    · rfl
    · exact absurd ((special_of_normal found).symm.trans special) nofun
    · exact absurd ((special_of_marked? marked).symm.trans special) nofun
  allFlags entry member special := by
    rcases mem_encodeOptions_iff.1 member with
      ⟨option, marked, rfl⟩ | ⟨k, option, found, rfl⟩ | ⟨option, marked, rfl⟩
    · exact absurd ((special_of_marked? marked).symm.trans special) nofun
    · exact absurd ((special_of_normal found).symm.trans special) nofun
    · have short : body.normalOptions.length ≤ 53 := by
        rcases bounded with short | ⟨-, unmarked⟩
        · exact short
        · rw [marked] at unmarked
          cases unmarked
      have below : 2 ^ body.normalOptions.length - 1 < 2 ^ 53 := by
        have := Nat.pow_le_pow_right (show 0 < 2 by decide) short
        have := Nat.two_pow_pos body.normalOptions.length
        omega
      have names : (unmarked (encodeOptions spell body)).map (·.name) =
          body.normalOptions.map fun option => spell option.name := by
        rw [unmarked_encodeOptions]
        exact map_ordinaryEntries spell body (·.name) _ fun _ _ => rfl
      refine ⟨?_, (union_firstBits _).trans (sum_firstBits _).symm, _, rfl, ?_⟩
      · rw [reported_allFlagsEntry flags, union_firstBits, Number.Binary64.toInt?_ofNat below]
      · rw [names]
        by_cases empty : body.normalOptions = []
        · rw [empty]
          exact .zero
        · rw [if_neg (by simpa using empty)]
          have some : ((body.normalOptions.map fun option => spell option.name).zip
              (firstBits body.normalOptions.length)) ≠ [] := by
            intro none
            have length := congrArg List.length none
            simp [empty] at length
          have parts := Denotes.union some fun _ part => part
          rwa [List.map_fst_zip (by simp), List.map_snd_zip (by simp)] at parts

/-- The values that a flag enum reports are the bit masks that its expressions denote exactly if
there are at most 53 ordinary options, or, where no option stands for all flags, at most 1024. With
more, the value for all flags is rounded up to the next power of two, or a bit is beyond the range
of the format. -/
theorem flag_masks_consistent_iff (spell : String → String) {body : EnumBody}
    (flags : body.flags = true) :
    (∃ bits, FlagMasks (encodeOptions spell body) bits) ↔
      body.normalOptions.length ≤ 53 ∨
        body.normalOptions.length ≤ 1024 ∧ marked? body .allFlags = none := by
  constructor
  · rintro ⟨bits, masks⟩
    cases marked : marked? body .allFlags with
    | none => exact .inr ⟨masks.length_le flags, rfl⟩
    | some option => exact .inl (masks.length_le_of_marked flags marked)
  · exact fun bounded => ⟨_, flagMasks_of_length_le flags bounded⟩

theorem accessFlags_consistent :
    accessFlags.flags = true ∧
      ∃ bits, FlagMasks (encodeOptions Text.upper accessFlags) bits :=
  ⟨rfl, (flag_masks_consistent_iff Text.upper rfl).2 (.inl (by decide))⟩

/-- A flag enum of 54 ordinary options and one for all of them. -/
def wideFlags : EnumBody where
  options :=
    (List.range 54).map (fun k => { name := "o" ++ toString k }) ++
      [{ name := "all", special := some .allFlags }]
  flags := true

/-- The option for all 54 flags reports `2 ^ 54`, which is no union of single bits below it. -/
theorem wideFlags_rounded :
    (∃ entry ∈ encodeOptions Text.upper wideFlags, entry.option.special = some .allFlags ∧
      entry.reported? = some (2 ^ 54)) ∧
    ¬ ∃ bits, FlagMasks (encodeOptions Text.upper wideFlags) bits := by
  have marked :
      marked? wideFlags .allFlags = some { name := "all", special := some .allFlags } := by
    decide
  constructor
  · refine ⟨_, mem_encodeOptions_iff.2 (.inr (.inr ⟨_, marked, rfl⟩)), rfl, ?_⟩
    decide +kernel
  · rintro ⟨bits, masks⟩
    have short := masks.length_le_of_marked rfl marked
    exact absurd short (by decide)

end Flags

end Render

end BridgeCode
