import BridgeCode.Proofs.Text.Order
import BridgeCode.Text.Utf16

/-!
Code units decoded part by part.

* `decode_encode_append`: a text in front of code units is decoded to itself, whatever they are.
* `decode_append_cases`: two parts are decoded to the whole unless the halves of a character come
  apart between them. Both halves are replaced then, and the result is longer than the whole.
* `join_decode_eq_iff`: so any number of portions are decoded to the whole exactly if no character
  is split between them.
-/

namespace BridgeCode.Text

/-! ## Equations -/

theorem decodeOnto_eq (text : String) (raw : Raw) : decodeOnto text raw = text ++ decode raw := by
  -- What has been decoded grows along the recursion, so the induction is for any text in its place.
  have onto : ∀ (start : String) (raw : Raw) (text : String),
      decodeOnto text raw = text ++ decode raw := by
    intro start raw
    induction start, raw using decodeOnto.induct with
    | case1 start => exact fun text => String.append_empty.symm
    | case2 start unit =>
        intro text
        rw [decode, decodeOnto, decodeOnto, String.push_eq_append, String.push_eq_append,
          String.empty_append]
    | case3 start unit next rest pair ih =>
        intro text
        rw [decode, decodeOnto, if_pos pair, decodeOnto, if_pos pair, ih, ih,
          String.push_eq_append, String.push_eq_append, String.empty_append, String.append_assoc]
    | case4 start unit next rest apart ih =>
        intro text
        rw [decode, decodeOnto, if_neg apart, decodeOnto, if_neg apart, ih, ih,
          String.push_eq_append, String.push_eq_append, String.empty_append, String.append_assoc]
  exact onto text raw text

@[simp]
theorem decode_nil : decode [] = "" := rfl

theorem decode_singleton (unit : UInt16) : decode [unit] = String.singleton (alone unit) := rfl

theorem decode_pair {lead trail : UInt16} (pair : (isLead lead && isTrail trail) = true)
    (rest : Raw) :
    decode (lead :: trail :: rest) = String.singleton (joined lead trail) ++ decode rest := by
  rw [decode, decodeOnto, if_pos pair, decodeOnto_eq]
  rfl

theorem decode_apart {unit next : UInt16} (apart : ¬ (isLead unit && isTrail next) = true)
    (rest : Raw) :
    decode (unit :: next :: rest) = String.singleton (alone unit) ++ decode (next :: rest) := by
  rw [decode, decodeOnto, if_neg apart, decodeOnto_eq]
  rfl

theorem isLead_of_isTrail {unit : UInt16} (trail : isTrail unit = true) : isLead unit = false := by
  simp only [isLead, isTrail, Bool.and_eq_true, decide_eq_true_eq, Bool.and_eq_false_iff,
    decide_eq_false_iff_not] at trail ⊢
  omega

/-- A code unit that is no first half is decoded by itself, whatever follows. -/
theorem decode_cons_of_not_lead {unit : UInt16} (noLead : isLead unit = false) (rest : Raw) :
    decode (unit :: rest) = String.singleton (alone unit) ++ decode rest := by
  cases rest with
  | nil => exact String.append_empty.symm
  | cons next rest => exact decode_apart (by simp [noLead]) rest

/-! ## Two parts -/

/-- The halves of a character come apart between two parts. -/
def PartsPair (front back : Raw) : Prop :=
  ∃ lead trail, front.getLast? = some lead ∧ back.head? = some trail ∧
    isLead lead = true ∧ isTrail trail = true

theorem not_partsPair_nil_left (back : Raw) : ¬ PartsPair [] back := by
  simp [PartsPair]

theorem not_partsPair_nil_right (front : Raw) : ¬ PartsPair front [] := by
  simp [PartsPair]

theorem partsPair_singleton_cons {unit next : UInt16} {rest : Raw} :
    PartsPair [unit] (next :: rest) ↔ (isLead unit && isTrail next) = true := by
  simp [PartsPair]

theorem partsPair_cons_cons {unit next : UInt16} {rest back : Raw} :
    PartsPair (unit :: next :: rest) back ↔ PartsPair (next :: rest) back := by
  rw [PartsPair, PartsPair, List.getLast?_cons_cons]

/-- A whole character in front of a part makes no difference. -/
theorem partsPair_cons_cons_of_pair {lead trail : UInt16} {rest back : Raw}
    (pair : (isLead lead && isTrail trail) = true) :
    PartsPair (lead :: trail :: rest) back ↔ PartsPair rest back := by
  rw [partsPair_cons_cons]
  cases rest with
  | cons next rest => exact partsPair_cons_cons
  | nil =>
      have noLead := isLead_of_isTrail (Bool.and_eq_true_iff.1 pair).2
      simp [PartsPair, noLead]

/-- A lead that ends a part is decoded by itself, and so is the trail behind it in the next part. In
one piece they are one character. -/
theorem decode_append_cases (front back : Raw) :
    (¬ PartsPair front back ∧ decode (front ++ back) = decode front ++ decode back) ∨
      (PartsPair front back ∧
        (decode (front ++ back)).length + 1 = (decode front ++ decode back).length) := by
  induction "", front using decodeOnto.induct with
  | case1 => exact .inl ⟨not_partsPair_nil_left back, String.empty_append.symm⟩
  | case2 start unit =>
      cases back with
      | nil => exact .inl ⟨not_partsPair_nil_right _, String.append_empty.symm⟩
      | cons next rest =>
          rw [partsPair_singleton_cons, List.singleton_append, decode_singleton]
          by_cases pair : (isLead unit && isTrail next) = true
          · have noLead := isLead_of_isTrail (Bool.and_eq_true_iff.1 pair).2
            refine .inr ⟨pair, ?_⟩
            rw [decode_pair pair, decode_cons_of_not_lead noLead]
            simp only [String.length_append, String.length_singleton]
            omega
          · exact .inl ⟨pair, decode_apart pair rest⟩
  | case3 start unit next rest pair ih =>
      rw [partsPair_cons_cons_of_pair pair, List.cons_append, List.cons_append, decode_pair pair,
        decode_pair pair]
      refine ih.imp (And.imp_right fun same => ?_) (And.imp_right fun longer => ?_)
      · rw [same, String.append_assoc]
      · simp only [String.length_append] at longer ⊢
        omega
  | case4 start unit next rest apart ih =>
      rw [partsPair_cons_cons, List.cons_append, List.cons_append, decode_apart apart,
        decode_apart apart]
      rw [List.cons_append] at ih
      refine ih.imp (And.imp_right fun same => ?_) (And.imp_right fun longer => ?_)
      · rw [same, String.append_assoc]
      · simp only [String.length_append] at longer ⊢
        omega

theorem decode_append {front back : Raw} (whole : ¬ PartsPair front back) :
    decode (front ++ back) = decode front ++ decode back := by
  rcases decode_append_cases front back with ⟨-, same⟩ | ⟨parts, -⟩
  · exact same
  · exact absurd parts whole

/-! ## Any number of portions -/

/-- The halves of a character come apart between a portion and those after it. -/
def SplitsPair : List Raw → Prop
  | [] => False
  | portion :: portions => PartsPair portion portions.flatten ∨ SplitsPair portions

/-- Portions are decoded to the whole, or to something longer if a character is split. -/
theorem join_decode_cases (portions : List Raw) :
    (¬ SplitsPair portions ∧ String.join (portions.map decode) = decode portions.flatten) ∨
      (SplitsPair portions ∧
        (decode portions.flatten).length < (String.join (portions.map decode)).length) := by
  induction portions with
  | nil => exact .inl ⟨id, rfl⟩
  | cons portion portions ih =>
      rw [List.flatten_cons, List.map_cons, String.join_cons]
      rcases decode_append_cases portion portions.flatten with ⟨apart, same⟩ | ⟨parts, longer⟩
      · rw [same]
        rcases ih with ⟨none, whole⟩ | ⟨splits, later⟩
        · exact .inl ⟨not_or.2 ⟨apart, none⟩, by rw [whole]⟩
        · refine .inr ⟨.inr splits, ?_⟩
          rw [String.length_append, String.length_append]
          omega
      · refine .inr ⟨.inl parts, ?_⟩
        rw [String.length_append] at longer ⊢
        rcases ih with ⟨-, whole⟩ | ⟨-, later⟩
        · rw [whole]
          omega
        · omega

theorem join_decode_of_whole {portions : List Raw} (whole : ¬ SplitsPair portions) :
    String.join (portions.map decode) = decode portions.flatten := by
  rcases join_decode_cases portions with ⟨-, same⟩ | ⟨splits, -⟩
  · exact same
  · exact absurd splits whole

/-- Portions that are decoded each by itself give the whole exactly if no character is split. -/
theorem join_decode_eq_iff (portions : List Raw) :
    String.join (portions.map decode) = decode portions.flatten ↔ ¬ SplitsPair portions := by
  refine ⟨fun same => ?_, join_decode_of_whole⟩
  rcases join_decode_cases portions with ⟨whole, -⟩ | ⟨-, longer⟩
  · exact whole
  · rw [same] at longer
    exact absurd longer (Nat.lt_irrefl _)

/-! ## Texts as code units -/

theorem encode_append (s t : String) : encode (s ++ t) = encode s ++ encode t := by
  simp [encode, unitList, String.toList_append]

@[simp]
theorem encode_empty : encode "" = [] := rfl

theorem length_encode (s : String) : (encode s).length = units s := by
  have chars : ∀ cs : List Char, (cs.flatMap encodeUnits).length = listUnits cs := by
    intro cs
    induction cs with
    | nil => rfl
    | cons c cs ih =>
        rw [List.flatMap_cons, List.length_append, ih, listUnits]
        unfold encodeUnits charUnits
        split <;> rfl
  rw [encode, List.length_map]
  exact chars s.toList

/-- A character is one code unit that is no surrogate, or a first and a second half. -/
theorem encodeUnits_cases (c : Char) :
    (∃ unit, (encodeUnits c).map UInt16.ofNat = [unit] ∧ isLead unit = false ∧
        isTrail unit = false ∧ alone unit = c) ∨
      ∃ lead trail, (encodeUnits c).map UInt16.ofNat = [lead, trail] ∧ isLead lead = true ∧
        isTrail trail = true ∧ joined lead trail = c := by
  have valid := toNat_valid c
  unfold encodeUnits
  split
  case isTrue small =>
    have code : (UInt16.ofNat c.toNat).toNat = c.toNat := UInt16.toNat_ofNat_of_lt' small
    have noLead : isLead (UInt16.ofNat c.toNat) = false := by
      simp only [isLead, code, Bool.and_eq_false_iff, decide_eq_false_iff_not]
      omega
    have noTrail : isTrail (UInt16.ofNat c.toNat) = false := by
      simp only [isTrail, code, Bool.and_eq_false_iff, decide_eq_false_iff_not]
      omega
    exact .inl ⟨_, rfl, noLead, noTrail, by simp [alone, noLead, noTrail, code]⟩
  case isFalse large =>
    have first : (UInt16.ofNat (0xD800 + (c.toNat - 0x10000) / 0x400)).toNat =
        0xD800 + (c.toNat - 0x10000) / 0x400 := UInt16.toNat_ofNat_of_lt' (by rw [UInt16.size]; omega)
    have second : (UInt16.ofNat (0xDC00 + (c.toNat - 0x10000) % 0x400)).toNat =
        0xDC00 + (c.toNat - 0x10000) % 0x400 := UInt16.toNat_ofNat_of_lt' (by rw [UInt16.size]; omega)
    refine .inr ⟨_, _, rfl, ?_, ?_, ?_⟩
    · simp only [isLead, first, Bool.and_eq_true, decide_eq_true_eq]
      omega
    · simp only [isTrail, second, Bool.and_eq_true, decide_eq_true_eq]
      omega
    · have code : 0x10000 + (0xD800 + (c.toNat - 0x10000) / 0x400 - 0xD800) * 0x400 +
          (0xDC00 + (c.toNat - 0x10000) % 0x400 - 0xDC00) = c.toNat := by omega
      rw [joined, first, second, code, Char.ofNat_toNat]

theorem encode_ofList_cons (c : Char) (cs : List Char) :
    encode (String.ofList (c :: cs)) =
      (encodeUnits c).map UInt16.ofNat ++ encode (String.ofList cs) := by
  simp [encode, unitList]

/-- A text never begins with the second half of a character. -/
theorem not_partsPair_encode (raw : Raw) (s : String) : ¬ PartsPair raw (encode s) := by
  rintro ⟨lead, trail, -, begins, -, isSecond⟩
  cases chars : s.toList with
  | nil => simp [encode, unitList, chars] at begins
  | cons c cs =>
      rw [← s.ofList_toList, chars, encode_ofList_cons] at begins
      rcases encodeUnits_cases c with
        ⟨unit, code, -, noTrail, -⟩ | ⟨first, second, code, leads, -, -⟩
      · rw [code] at begins
        obtain rfl : unit = trail := by simpa using begins
        rw [noTrail] at isSecond
        cases isSecond
      · rw [code] at begins
        obtain rfl : first = trail := by simpa using begins
        rw [isLead_of_isTrail isSecond] at leads
        cases leads

/-- Whatever follows a text, the text is decoded to itself. -/
theorem decode_encode_append (s : String) (raw : Raw) :
    decode (encode s ++ raw) = s ++ decode raw := by
  have chars : ∀ cs : List Char, decode (encode (String.ofList cs) ++ raw) =
      String.ofList cs ++ decode raw := by
    intro cs
    induction cs with
    | nil => exact String.empty_append.symm
    | cons c cs ih =>
        have text : String.ofList (c :: cs) = String.singleton c ++ String.ofList cs := by
          simp
        rw [encode_ofList_cons, List.append_assoc, text, String.append_assoc, ← ih]
        rcases encodeUnits_cases c with
          ⟨unit, code, noLead, -, same⟩ | ⟨lead, trail, code, leads, trails, same⟩
        · rw [code, List.singleton_append, decode_cons_of_not_lead noLead, same]
        · rw [code, List.cons_append, List.singleton_append, decode_pair (by simp [leads, trails]),
            same]
  have whole := chars s.toList
  rwa [String.ofList_toList] at whole

@[simp]
theorem decode_encode (s : String) : decode (encode s) = s := by
  have whole := decode_encode_append s []
  rwa [List.append_nil, decode_nil, String.append_empty] at whole

theorem encode_eq_nil_iff {s : String} : encode s = [] ↔ s = "" := by
  refine ⟨fun none => ?_, fun empty => by rw [empty, encode_empty]⟩
  rw [← decode_encode s, none, decode_nil]

/-- Whatever stands in front of a text, the text is decoded to itself. -/
theorem decode_append_encode (raw : Raw) (s : String) :
    decode (raw ++ encode s) = decode raw ++ s := by
  rw [decode_append (not_partsPair_encode raw s), decode_encode]

/-! ## Well-formed code units -/

/-- The code units are those of a text: no surrogate among them stands alone. -/
def WellFormed (raw : Raw) : Prop := ∃ text, raw = encode text

theorem wellFormed_encode (text : String) : WellFormed (encode text) := ⟨text, rfl⟩

theorem WellFormed.flatten {portions : List Raw} (formed : ∀ portion ∈ portions, WellFormed portion) :
    WellFormed portions.flatten := by
  induction portions with
  | nil => exact wellFormed_encode ""
  | cons portion portions ih =>
      obtain ⟨text, rfl⟩ := formed portion List.mem_cons_self
      obtain ⟨rest, whole⟩ := ih fun later member => formed later (List.mem_cons_of_mem _ member)
      exact ⟨text ++ rest, by rw [List.flatten_cons, whole, encode_append]⟩

/-- Texts are split nowhere. -/
theorem not_splitsPair_of_wellFormed {portions : List Raw}
    (formed : ∀ portion ∈ portions, WellFormed portion) : ¬ SplitsPair portions := by
  induction portions with
  | nil => exact id
  | cons portion portions ih =>
      have later := fun rest member => formed rest (List.mem_cons_of_mem portion member)
      obtain ⟨text, whole⟩ := WellFormed.flatten later
      rintro (parts | splits)
      · rw [whole] at parts
        exact not_partsPair_encode portion text parts
      · exact ih later splits

end BridgeCode.Text
