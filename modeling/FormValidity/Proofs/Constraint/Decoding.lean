import FormValidity.Constraint.Decoding
import FormValidity.Proofs.Constraint.Grammar
import Mathlib.Logic.Basic

/-! # The decoder and the grammar of constraints

The decoder answers exactly what the grammar tells: `Constraint.decode_iff_written`. For each shape
there are three lemmas. What is written decodes to its constraint, what is refused fails with its
error, and every raw value is written or refused. The third one closes the circle, since an answer
has one outcome only: neither relation leaves out a case, and no raw value has two meanings.
-/

namespace FormValidity

private theorem Value.natural?_eq_some_iff {value : Value} {n : Nat} :
    value.natural? = some n ↔ value = .natural n := by
  constructor
  · intro stored
    unfold natural? at stored
    split at stored
    · next integer =>
        split at stored
        · next nonnegative =>
            cases stored
            rw [natural, Int.toNat_of_nonneg nonnegative]
        · cases stored
    · cases stored
  · rintro rfl
    simp only [natural, natural?, Int.natCast_nonneg, ↓reduceIte, Int.toNat_natCast]

private theorem Value.natural?_natural (n : Nat) : (natural n).natural? = some n :=
  natural?_eq_some_iff.mpr rfl

private theorem Value.natural?_eq_none {value : Value} (other : ∀ n, value ≠ .natural n) :
    value.natural? = none :=
  Option.eq_none_iff_forall_ne_some.mpr fun n stored => other n (natural?_eq_some_iff.mp stored)

private theorem Value.natural_or_not (value : Value) :
    (∃ n, value = .natural n) ∨ ∀ n, value ≠ .natural n := by
  by_cases stored : ∃ n, value = .natural n
  · exact Or.inl stored
  · exact Or.inr fun n same => stored ⟨n, same⟩

namespace Pattern

private theorem decodePattern_of_written {raw : Value} {pattern : Pattern} (kind : String)
    (written : Written raw pattern) : Constraint.decodePattern kind raw = .ok pattern := by
  cases written with
  | text source pattern valid => simp only [Constraint.decodePattern, valid]

private theorem decodePattern_of_refused {kind : String} {raw : Value} {cause : RuleError}
    (refused : Refused kind raw cause) : Constraint.decodePattern kind raw = .error cause := by
  cases refused with
  | shape raw other =>
      cases raw with
      | str source => exact (other source rfl).elim
      | _ => rfl
  | invalid source violates => simp only [Constraint.decodePattern, violates]

private theorem written_or_refused (kind : String) (raw : Value) :
    (∃ pattern, Written raw pattern) ∨ ∃ cause, Refused kind raw cause := by
  cases raw with
  | str source =>
      cases read : compile? source with
      | some pattern => exact Or.inl ⟨pattern, .text source pattern read⟩
      | none => exact Or.inr ⟨_, .invalid source read⟩
  | _ => exact Or.inr ⟨_, .shape _ fun _ => Value.noConfusion⟩

end Pattern

namespace LengthRule

variable {entries : List (String × Value)}

private theorem decodeBound_of_natural (kind : String) {key : String} (bound : Option Nat)
    (given : Assoc.get? entries key = bound.map .natural) :
    Constraint.decodeBound kind entries key = .ok bound := by
  cases bound with
  | none => simp only [Constraint.decodeBound, given, Option.map_none]
  | some n => simp only [Constraint.decodeBound, given, Option.map_some, Value.natural?_natural]

private theorem decodeBound_of_other (kind : String) {key : String} {raw : Value}
    (given : Assoc.get? entries key = some raw) (other : ∀ n, raw ≠ .natural n) :
    Constraint.decodeBound kind entries key =
      .error (.unrecognizedShape kind (.notNatural key)) := by
  simp only [Constraint.decodeBound, given, Value.natural?_eq_none other]

private theorem decodeLength_of_written {rule : LengthRule} (kind : String)
    (written : rule.Written entries) : Constraint.decodeLength kind entries = .ok rule := by
  cases written with
  | range low high given ascends =>
      simp only [Constraint.decodeLength, given, Constraint.decodeRange, Value.natural?_natural,
        ascends, ↓reduceIte]
  | exact length noRange given =>
      have exactly := decodeBound_of_natural kind (some length) given
      simp only [Constraint.decodeLength, noRange, exactly, bind, Except.bind]
  | bounds least greatest noRange noLength low high bounded =>
      have exactly := decodeBound_of_natural kind none noLength
      have unbounded : ¬ (least = none ∧ greatest = none) := fun both =>
        bounded.elim (· both.1) (· both.2)
      simp only [Constraint.decodeLength, noRange, exactly, decodeBound_of_natural kind least low,
        decodeBound_of_natural kind greatest high, bind, Except.bind, unbounded, ↓reduceIte]

private theorem decodeLength_of_refused {fault : ShapeFault} (kind : String)
    (refused : Refused entries fault) :
    Constraint.decodeLength kind entries = .error (.unrecognizedShape kind fault) := by
  cases refused with
  | range raw given noPair =>
      simp only [Constraint.decodeLength, given]
      unfold Constraint.decodeRange
      split
      · next low high => exact (noPair low high rfl).elim
      · rfl
  | falling low high given falls =>
      simp only [Constraint.decodeLength, given, Constraint.decodeRange]
      -- two naturals fall, and a pair with any other end meets the same error
      split
      · next least greatest lowest highest =>
          have descends := falls least greatest (Value.natural?_eq_some_iff.mp lowest)
            (Value.natural?_eq_some_iff.mp highest)
          rw [if_neg (Nat.not_le.mpr descends)]
      · rfl
  | exact raw noRange given other =>
      simp only [Constraint.decodeLength, noRange, decodeBound_of_other kind given other, bind,
        Except.bind]
  | least raw noRange noLength given other =>
      have exactly := decodeBound_of_natural kind none noLength
      simp only [Constraint.decodeLength, noRange, exactly, decodeBound_of_other kind given other,
        bind, Except.bind]
  | greatest least raw noRange noLength low given other =>
      have exactly := decodeBound_of_natural kind none noLength
      simp only [Constraint.decodeLength, noRange, exactly, decodeBound_of_natural kind least low,
        decodeBound_of_other kind given other, bind, Except.bind]
  | unbounded noRange noLength noLeast noGreatest =>
      have exactly := decodeBound_of_natural kind none noLength
      have low := decodeBound_of_natural kind none noLeast
      have high := decodeBound_of_natural kind none noGreatest
      simp only [Constraint.decodeLength, noRange, exactly, low, high, bind, Except.bind, and_self,
        ↓reduceIte]

private theorem bounded_or_not (entries : List (String × Value)) (key : String) :
    (∃ bound : Option Nat, Assoc.get? entries key = bound.map .natural) ∨
      ∃ raw, Assoc.get? entries key = some raw ∧ ∀ n, raw ≠ .natural n := by
  cases given : Assoc.get? entries key with
  | none => exact Or.inl ⟨none, rfl⟩
  | some raw =>
      rcases raw.natural_or_not with ⟨n, rfl⟩ | other
      · exact Or.inl ⟨some n, rfl⟩
      · exact Or.inr ⟨raw, rfl, other⟩

private theorem written_or_refused_of_range {raw : Value}
    (given : Assoc.get? entries "in" = some raw) :
    (∃ rule : LengthRule, rule.Written entries) ∨ ∃ fault, Refused entries fault := by
  by_cases pair : ∃ low high, raw = .arr [low, high]
  · obtain ⟨low, high, rfl⟩ := pair
    by_cases ascending : ∃ least greatest, low = .natural least ∧ high = .natural greatest ∧
        least ≤ greatest
    · obtain ⟨least, greatest, rfl, rfl, ascends⟩ := ascending
      exact Or.inl ⟨_, .range least greatest given ascends⟩
    · refine Or.inr ⟨_, .falling low high given fun least greatest lowest highest => ?_⟩
      exact Nat.lt_of_not_le fun ascends => ascending ⟨least, greatest, lowest, highest, ascends⟩
  · exact Or.inr ⟨_, .range raw given fun low high same => pair ⟨low, high, same⟩⟩

private theorem written_or_refused (entries : List (String × Value)) :
    (∃ rule : LengthRule, rule.Written entries) ∨ ∃ fault, Refused entries fault := by
  cases noRange : Assoc.get? entries "in" with
  | some raw => exact written_or_refused_of_range noRange
  | none =>
      rcases bounded_or_not entries "is" with ⟨_ | length, given⟩ | ⟨raw, given, other⟩
      · rcases bounded_or_not entries "min" with ⟨least, low⟩ | ⟨raw, low, other⟩
        · rcases bounded_or_not entries "max" with ⟨greatest, high⟩ | ⟨raw, high, other⟩
          · by_cases unbounded : least = none ∧ greatest = none
            · obtain ⟨rfl, rfl⟩ := unbounded
              exact Or.inr ⟨_, .unbounded noRange given low high⟩
            · exact Or.inl ⟨_, .bounds least greatest noRange given low high
                (not_and_or.mp unbounded)⟩
          · exact Or.inr ⟨_, .greatest least raw noRange given low high other⟩
        · exact Or.inr ⟨_, .least raw noRange given low other⟩
      · exact Or.inl ⟨_, .exact length noRange given⟩
      · exact Or.inr ⟨_, .exact raw noRange given other⟩

end LengthRule

/-- A value is true exactly if it is the truth value. -/
theorem isTrue_iff (raw : Value) : Constraint.isTrue raw ↔ raw = .bool true := by
  constructor
  · intro holds
    unfold Constraint.isTrue at holds
    split at holds
    · rfl
    · cases holds
  · rintro rfl
    rfl

private theorem any_isTrue_iff (raw : Option Value) :
    raw.any Constraint.isTrue ↔ raw = some (.bool true) := by
  simp only [Option.any_eq_true, isTrue_iff, exists_eq_right]

namespace NumericRule

variable {entries : List (String × Value)}

private theorem decodeNumeric_of_written {rule : NumericRule} (kind : String)
    (written : rule.Written entries) : Constraint.decodeNumeric kind entries = .ok rule := by
  have whole_eq : ∀ {whole : Bool},
      (whole ↔ Assoc.get? entries "only_integer" = some (.bool true)) →
        (Assoc.get? entries "only_integer").any Constraint.isTrue = whole :=
    fun told => Bool.eq_iff_iff.mpr ((any_isTrue_iff _).trans told.symm)
  cases written with
  | plain onlyInteger noPattern whole =>
      simp only [Constraint.decodeNumeric, noPattern, bind, Except.bind, whole_eq whole]
  | ignoring raw pattern onlyInteger given written whole =>
      simp only [Constraint.decodeNumeric, given, Pattern.decodePattern_of_written kind written,
        Except.map, bind, Except.bind, whole_eq whole]

private theorem decodeNumeric_of_refused {kind : String} {raw : Value} {cause : RuleError}
    (given : Assoc.get? entries "ignore" = some raw) (refused : Pattern.Refused kind raw cause) :
    Constraint.decodeNumeric kind entries = .error cause := by
  simp only [Constraint.decodeNumeric, given, Pattern.decodePattern_of_refused refused, Except.map,
    bind, Except.bind]

private theorem written_or_refused (kind : String) (entries : List (String × Value)) :
    (∃ rule : NumericRule, rule.Written entries) ∨
      ∃ raw cause, Assoc.get? entries "ignore" = some raw ∧ Pattern.Refused kind raw cause := by
  have whole := any_isTrue_iff (Assoc.get? entries "only_integer")
  cases given : Assoc.get? entries "ignore" with
  | none => exact Or.inl ⟨_, .plain _ given whole⟩
  | some raw =>
      rcases Pattern.written_or_refused kind raw with ⟨pattern, written⟩ | ⟨cause, refused⟩
      · exact Or.inl ⟨_, .ignoring raw pattern _ given written whole⟩
      · exact Or.inr ⟨raw, cause, rfl, refused⟩

end NumericRule

/-- A key that is set to true is enabled, unless it is the message. -/
theorem enabledKeys_cons_of_enabled {key : String} (noMessage : key ≠ "message")
    (rest : List (String × Value)) :
    Constraint.enabledKeys ((key, .bool true) :: rest) = key :: Constraint.enabledKeys rest := by
  have kept : key ≠ "message" ∧ Constraint.isTrue (.bool true) := ⟨noMessage, rfl⟩
  rw [Constraint.enabledKeys,
    List.filter_cons_of_pos (by simpa only [decide_eq_true_eq] using kept), List.map_cons]
  rfl

private theorem enabledKeys_cons_of_off {key : String} {raw : Value}
    (off : key = "message" ∨ raw ≠ .bool true) (rest : List (String × Value)) :
    Constraint.enabledKeys ((key, raw) :: rest) = Constraint.enabledKeys rest := by
  have dropped : ¬ (key ≠ "message" ∧ Constraint.isTrue raw) := by
    rw [isTrue_iff]
    rintro ⟨noMessage, enabled⟩
    exact off.elim noMessage (· enabled)
  rw [Constraint.enabledKeys,
    List.filter_cons_of_neg (by simpa only [decide_eq_true_eq] using dropped)]
  rfl

/-- Enabled keys are those that are set to true, without the message. -/
theorem enables_iff (entries : List (String × Value)) (keys : List String) :
    Enables entries keys ↔ Constraint.enabledKeys entries = keys := by
  constructor
  · intro enables
    induction enables with
    | nil => rfl
    | enabled key noMessage others ih => rw [enabledKeys_cons_of_enabled noMessage, ih]
    | skipped key raw off others ih => rw [enabledKeys_cons_of_off off, ih]
  · rintro rfl
    induction entries with
    | nil => exact .nil
    | cons entry rest ih =>
        obtain ⟨key, raw⟩ := entry
        by_cases off : key = "message" ∨ raw ≠ .bool true
        · rw [enabledKeys_cons_of_off off]
          exact .skipped key raw off ih
        · obtain ⟨noMessage, enabled⟩ := not_or.mp off
          cases not_not.mp enabled
          rw [enabledKeys_cons_of_enabled noMessage]
          exact .enabled key noMessage ih

namespace Modifier

variable {kind : String} {entries : List (String × Value)}

private theorem decodeSet_of_other {key : String} {raw : Value} (noList : ∀ set, raw ≠ .arr set) :
    Constraint.decodeSet kind key raw = .error (.unrecognizedShape kind (.notList key)) := by
  cases raw with
  | arr items => exact (noList items rfl).elim
  | _ => rfl

private theorem list_or_not (raw : Value) : (∃ set, raw = .arr set) ∨ ∀ set, raw ≠ .arr set := by
  cases raw with
  | arr set => exact Or.inl ⟨set, rfl⟩
  | _ => exact Or.inr fun _ => Value.noConfusion

/-- A selection that is written is decoded. -/
theorem decodeSelection_of_selected {modifier : Modifier} (kind : String)
    (selected : modifier.Selected entries) :
    Constraint.decodeSelection kind entries = .ok modifier := by
  cases selected with
  | format raw pattern given written =>
      simp only [Constraint.decodeSelection, given, Pattern.decodePattern_of_written kind written,
        Except.map]
  | inclusion set noPattern given =>
      simp only [Constraint.decodeSelection, noPattern, given, Constraint.decodeSet, Except.map]
  | exclusion set noPattern noMembers given =>
      simp only [Constraint.decodeSelection, noPattern, noMembers, given, Constraint.decodeSet,
        Except.map]
  | builtin keys noPattern noMembers noOthers enables nonempty =>
      simp only [Constraint.decodeSelection, noPattern, noMembers, noOthers,
        (enables_iff entries keys).mp enables]

private theorem decodeSelection_of_unselected {cause : RuleError}
    (unselected : Unselected kind entries cause) :
    Constraint.decodeSelection kind entries = .error cause := by
  cases unselected with
  | format raw cause given refused =>
      simp only [Constraint.decodeSelection, given, Pattern.decodePattern_of_refused refused,
        Except.map]
  | inclusion raw noPattern given noList =>
      simp only [Constraint.decodeSelection, noPattern, given, decodeSet_of_other noList,
        Except.map]
  | exclusion raw noPattern noMembers given noList =>
      simp only [Constraint.decodeSelection, noPattern, noMembers, given,
        decodeSet_of_other noList, Except.map]
  | builtin noPattern noMembers noOthers enables =>
      simp only [Constraint.decodeSelection, noPattern, noMembers, noOthers,
        (enables_iff entries []).mp enables]

private theorem selected_or_unselected (kind : String) (entries : List (String × Value)) :
    (∃ modifier : Modifier, modifier.Selected entries) ∨
      ∃ cause, Unselected kind entries cause := by
  -- each key is looked at only where the ones that hide it are absent
  cases noPattern : Assoc.get? entries "regex" with
  | some raw =>
      rcases Pattern.written_or_refused kind raw with ⟨pattern, written⟩ | ⟨cause, refused⟩
      · exact Or.inl ⟨_, .format raw pattern noPattern written⟩
      · exact Or.inr ⟨cause, .format raw cause noPattern refused⟩
  | none =>
  cases noMembers : Assoc.get? entries "in" with
  | some raw =>
      rcases list_or_not raw with ⟨set, rfl⟩ | noList
      · exact Or.inl ⟨_, .inclusion set noPattern noMembers⟩
      · exact Or.inr ⟨_, .inclusion raw noPattern noMembers noList⟩
  | none =>
  cases noOthers : Assoc.get? entries "from" with
  | some raw =>
      rcases list_or_not raw with ⟨set, rfl⟩ | noList
      · exact Or.inl ⟨_, .exclusion set noPattern noMembers noOthers⟩
      · exact Or.inr ⟨_, .exclusion raw noPattern noMembers noOthers noList⟩
  | none =>
  have enables := (enables_iff entries _).mpr rfl
  by_cases nothing : Constraint.enabledKeys entries = []
  · exact Or.inr ⟨_, .builtin noPattern noMembers noOthers (nothing ▸ enables)⟩
  · exact Or.inl ⟨_, .builtin _ noPattern noMembers noOthers enables nothing⟩

/-- A modifier that is written is decoded. -/
theorem decodeModifier_of_written {modifier : Modifier} (written : modifier.Written kind entries) :
    Constraint.decodeModifier kind entries = .ok modifier := by
  cases written with
  | length rule ofLength written =>
      rw [Constraint.decodeModifier, if_pos ofLength, rule.decodeLength_of_written kind written]
      rfl
  | numericality rule ofNumber written =>
      rw [Constraint.decodeModifier, if_neg (by rw [ofNumber]; decide), if_pos ofNumber,
        rule.decodeNumeric_of_written kind written]
      rfl
  | selection modifier noLength noNumber selected =>
      rw [Constraint.decodeModifier, if_neg noLength, if_neg noNumber,
        decodeSelection_of_selected kind selected]

private theorem decodeModifier_of_refused {cause : RuleError}
    (refused : Refused kind entries cause) :
    Constraint.decodeModifier kind entries = .error cause := by
  cases refused with
  | length fault ofLength refused =>
      rw [Constraint.decodeModifier, if_pos ofLength,
        LengthRule.decodeLength_of_refused kind refused]
      rfl
  | numericality raw cause ofNumber given refused =>
      rw [Constraint.decodeModifier, if_neg (by rw [ofNumber]; decide), if_pos ofNumber,
        NumericRule.decodeNumeric_of_refused given refused]
      rfl
  | selection cause noLength noNumber unselected =>
      rw [Constraint.decodeModifier, if_neg noLength, if_neg noNumber,
        decodeSelection_of_unselected unselected]

private theorem written_or_refused (kind : String) (entries : List (String × Value)) :
    (∃ modifier : Modifier, modifier.Written kind entries) ∨
      ∃ cause, Refused kind entries cause := by
  by_cases ofLength : kind = "length"
  · rcases LengthRule.written_or_refused entries with ⟨rule, written⟩ | ⟨fault, refused⟩
    · exact Or.inl ⟨_, .length rule ofLength written⟩
    · exact Or.inr ⟨_, .length fault ofLength refused⟩
  by_cases ofNumber : kind = "numericality"
  · rcases NumericRule.written_or_refused kind entries with
      ⟨rule, written⟩ | ⟨raw, cause, given, refused⟩
    · exact Or.inl ⟨_, .numericality rule ofNumber written⟩
    · exact Or.inr ⟨_, .numericality raw cause ofNumber given refused⟩
  rcases selected_or_unselected kind entries with ⟨modifier, selected⟩ | ⟨cause, unselected⟩
  · exact Or.inl ⟨_, .selection modifier ofLength ofNumber selected⟩
  · exact Or.inr ⟨_, .selection cause ofLength ofNumber unselected⟩

end Modifier

namespace Constraint

variable {registry : Registry} {kind : String}

/-- What is written for a kind is decoded as what it stands for. -/
theorem decode_of_written {raw : Value} {constraint : Constraint}
    (written : Written registry kind raw constraint) :
    decode registry kind raw = .ok constraint := by
  cases written with
  | flag enabled => rfl
  | custom name message predicate held => simp only [decode, decodePair, held]
  | modifier entries modifier written =>
      simp only [decode, decodeObject, Modifier.decodeModifier_of_written written, Except.map]

/-- What is refused for a kind is refused with its cause. -/
theorem decode_of_refused {raw : Value} {cause : RuleError}
    (refused : Refused registry kind raw cause) : decode registry kind raw = .error cause := by
  cases refused with
  | shape raw other =>
      cases raw with
      | bool _ | arr _ | obj _ => exact (other (by simp [Value.shape])).elim
      | _ => rfl
  | pairSize items noPair =>
      simp only [decode]
      unfold decodePair
      split
      · exact (noPair rfl).elim
      · exact (noPair rfl).elim
      · rfl
  | pairHead head message noName =>
      cases head with
      | str name => exact (noName name rfl).elim
      | _ => rfl
  | unknownPredicate name message unknown => simp only [decode, decodePair, unknown]
  | modifier entries cause refused =>
      simp only [decode, decodeObject, Modifier.decodeModifier_of_refused refused, Except.map]

private theorem written_or_refused_of_pair (registry : Registry) (kind : String)
    (head message : Value) :
    (∃ constraint, Written registry kind (.arr [head, message]) constraint) ∨
      ∃ cause, Refused registry kind (.arr [head, message]) cause := by
  cases head with
  | str name =>
      cases held : registry.named? name with
      | some predicate => exact Or.inl ⟨_, .custom name message predicate held⟩
      | none => exact Or.inr ⟨_, .unknownPredicate name message held⟩
  | _ => exact Or.inr ⟨_, .pairHead _ message fun _ => Value.noConfusion⟩

/-- Every value is written for a kind or refused. -/
theorem written_or_refused (registry : Registry) (kind : String) (raw : Value) :
    (∃ constraint, Written registry kind raw constraint) ∨
      ∃ cause, Refused registry kind raw cause := by
  cases raw with
  | bool enabled => exact Or.inl ⟨_, .flag enabled⟩
  | arr items =>
      match items with
      | [head, message] => exact written_or_refused_of_pair registry kind head message
      | [] | [_] | _ :: _ :: _ :: _ => exact Or.inr ⟨_, .pairSize _ (by simp)⟩
  | obj entries =>
      rcases Modifier.written_or_refused kind entries with ⟨modifier, written⟩ | ⟨cause, refused⟩
      · exact Or.inl ⟨_, .modifier entries modifier written⟩
      · exact Or.inr ⟨cause, .modifier entries cause refused⟩
  | _ => exact Or.inr ⟨_, .shape _ (by simp [Value.shape])⟩

/-- What is decoded is written. -/
theorem written_of_decode {raw : Value} {constraint : Constraint}
    (decoded : decode registry kind raw = .ok constraint) :
    Written registry kind raw constraint := by
  rcases written_or_refused registry kind raw with ⟨other, written⟩ | ⟨cause, refused⟩
  · cases decoded.symm.trans (decode_of_written written)
    exact written
  · cases decoded.symm.trans (decode_of_refused refused)

private theorem refused_of_decode {raw : Value} {cause : RuleError}
    (failed : decode registry kind raw = .error cause) : Refused registry kind raw cause := by
  rcases written_or_refused registry kind raw with ⟨constraint, written⟩ | ⟨other, refused⟩
  · cases failed.symm.trans (decode_of_written written)
  · cases failed.symm.trans (decode_of_refused refused)
    exact refused

/-- **The decoder knows the grammar.** It accepts exactly what the grammar writes, with the
constraint it stands for, and refuses everything else, with the error that the grammar gives. -/
theorem decode_iff_written (registry : Registry) (kind : String) (raw : Value) :
    (∀ constraint,
      decode registry kind raw = .ok constraint ↔ Written registry kind raw constraint) ∧
      ∀ cause, decode registry kind raw = .error cause ↔ Refused registry kind raw cause :=
  ⟨fun _ => ⟨written_of_decode, decode_of_written⟩, fun _ => ⟨refused_of_decode, decode_of_refused⟩⟩

/-- Only a pair decodes to a predicate of the host, and the registry holds that one. -/
theorem named?_of_decode_custom {raw : Value} {predicate : Predicate} {message : Option String}
    (decoded : decode registry kind raw = .ok (.custom predicate message)) :
    ∃ name, registry.named? name = some predicate := by
  cases written_of_decode decoded with
  | custom name message predicate held => exact ⟨name, held⟩

/-- Only a boolean decodes to a flag. -/
theorem decode_eq_flag_iff {raw : Value} {enabled : Bool} :
    decode registry kind raw = .ok (.flag enabled) ↔ raw = .bool enabled := by
  constructor
  · intro decoded
    cases written_of_decode decoded with
    | flag => rfl
  · rintro rfl
    rfl

end Constraint

end FormValidity
