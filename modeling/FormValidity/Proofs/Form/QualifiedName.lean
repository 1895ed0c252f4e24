import FormValidity.Proofs.Form.Commit

/-! # Paths and their qualified names

A qualified name is cut at its first dot, and three forms of names come of it
(`FieldPath.Denotes`): a name without dots is an attribute, a name with a dot further on has a model
before it, and a dot at the very beginning is dropped. So a path is read back from its name exactly
if the first dot of the name is the one after its model, and paths of this kind that differ have
different keys and different confirming siblings (`FieldPath.reparses_exactly`).
-/

namespace FormValidity

/-- Two controls share a key exactly if their paths are shown alike. -/
theorem Form.sharesKey_iff {form : Form} {name other : String} {path its : FieldPath}
    (found : form.fields.get? name = some path) (present : form.fields.get? other = some its) :
    form.SharesKey name other ↔ its.display = path.display := by
  simp only [SharesKey, found, present, Option.some.injEq, exists_eq_left', ↓existsAndEq, true_and]

namespace FieldPath

/-- The model of a path has no dot, or the attribute if there is no model. -/
def Unambiguous (path : FieldPath) : Prop :=
  (∃ model, path.model = some model ∧ '.' ∉ model.toList) ∨
    path.model = none ∧ '.' ∉ path.attributeName.toList

/-- The path that a qualified name denotes, by the place of the first dot. -/
inductive Denotes : String → FieldPath → Prop where
  | bare (attributeName : String) (noDot : '.' ∉ attributeName.toList) :
      Denotes attributeName ⟨none, attributeName⟩
  | qualified (model attributeName : String) (nonempty : model ≠ "") (noDot : '.' ∉ model.toList) :
      Denotes (model ++ "." ++ attributeName) ⟨some model, attributeName⟩
  | headless (attributeName : String) : Denotes ("" ++ "." ++ attributeName) ⟨none, attributeName⟩

section Cutting

variable {text before after : List Char}

private theorem splitAtDot?_append (noDot : '.' ∉ before) :
    splitAtDot? (before ++ '.' :: after) = some (before, after) := by
  induction before with
  | nil => rfl
  | cons c rest ih =>
      obtain ⟨differs, others⟩ := not_or.mp (mt List.mem_cons.mpr noDot)
      rw [List.cons_append, splitAtDot?, if_neg (Ne.symm differs), ih others]
      rfl

private theorem splitAtDot?_of_not_mem (noDot : '.' ∉ text) : splitAtDot? text = none := by
  induction text with
  | nil => rfl
  | cons c rest ih =>
      obtain ⟨differs, others⟩ := not_or.mp (mt List.mem_cons.mpr noDot)
      rw [splitAtDot?, if_neg (Ne.symm differs), ih others]
      rfl

end Cutting

private theorem toList_joined (model attributeName : String) :
    (model ++ "." ++ attributeName).toList = model.toList ++ '.' :: attributeName.toList := by
  rw [String.toList_append, String.toList_append, List.append_assoc]
  rfl

private theorem parse_joined {model : String} (noDot : '.' ∉ model.toList)
    (attributeName : String) :
    parse (model ++ "." ++ attributeName) = make (some model) attributeName := by
  rw [parse, toList_joined, splitAtDot?_append noDot]
  simp only [String.ofList_toList]

private theorem make_of_nonempty {model : String} (nonempty : model ≠ "") (attributeName : String) :
    make (some model) attributeName = ⟨some model, attributeName⟩ :=
  congrArg (FieldPath.mk · attributeName) (Option.filter_some_pos (decide_eq_true nonempty))

/-- The model of a path that has been made is not empty. -/
theorem model_make_ne (model : Option String) (attributeName : String) :
    (make model attributeName).model ≠ some "" := by
  intro empty
  exact of_decide_eq_true (Option.filter_eq_some_iff.mp empty).2 rfl

variable {text : String} {path : FieldPath}

/-- A text is parsed as the path that it denotes. -/
theorem Denotes.parse_eq (denotes : Denotes text path) : parse text = path := by
  cases denotes with
  | bare _ noDot =>
      rw [parse, splitAtDot?_of_not_mem noDot]
      rfl
  | qualified model attributeName nonempty noDot =>
      rw [parse_joined noDot, make_of_nonempty nonempty]
  | headless attributeName => exact parse_joined (by decide) attributeName

/-- Every text denotes a path. -/
theorem exists_denotes (text : String) : ∃ path, Denotes text path := by
  by_cases dotted : '.' ∈ text.toList
  · obtain ⟨before, after, split, noDot⟩ := List.eq_append_cons_of_mem dotted
    have joined : text = String.ofList before ++ "." ++ String.ofList after := by
      rw [← String.toList_inj, toList_joined, String.toList_ofList, String.toList_ofList, split]
    rw [joined]
    by_cases nonempty : String.ofList before = ""
    · rw [nonempty]
      exact ⟨_, .headless _⟩
    · exact ⟨_, .qualified _ _ nonempty (String.toList_ofList.symm ▸ noDot)⟩
  · exact ⟨_, .bare text dotted⟩

/-- Every qualified name denotes the path that is read from it. -/
theorem denotes_parse (text : String) : Denotes text (parse text) := by
  obtain ⟨path, denotes⟩ := exists_denotes text
  rwa [denotes.parse_eq]

private theorem ne_headless (attributeName : String) :
    attributeName ≠ "" ++ "." ++ attributeName := by
  intro same
  have lists := congrArg String.toList same
  rw [toList_joined] at lists
  exact List.cons_ne_self '.' _ lists.symm

/-- A path that its own display denotes is unambiguous. -/
theorem Denotes.unambiguous (denotes : Denotes path.display path) : path.Unambiguous := by
  generalize named : path.display = text at denotes
  cases denotes with
  | bare _ noDot => exact Or.inr ⟨rfl, noDot⟩
  | qualified model _ _ noDot => exact Or.inl ⟨model, rfl, noDot⟩
  | headless attributeName => exact (ne_headless attributeName named).elim

/-- A path is read back from its name exactly if it is unambiguous. -/
theorem parse_display_iff (nonempty : path.model ≠ some "") :
    parse path.display = path ↔ path.Unambiguous := by
  constructor
  · intro reparsed
    have denotes := denotes_parse path.display
    rw [reparsed] at denotes
    exact denotes.unambiguous
  · obtain ⟨_ | model, attributeName⟩ := path
    · rintro (⟨_, named, _⟩ | ⟨_, noDot⟩)
      · cases named
      · exact (Denotes.bare attributeName noDot).parse_eq
    · rintro (⟨_, named, noDot⟩ | ⟨absent, _⟩)
      · cases named
        have present : model ≠ "" := mt (congrArg some) nonempty
        exact (Denotes.qualified model attributeName present noDot).parse_eq
      · cases absent

private theorem Denotes.model_ne (denotes : Denotes text path) : path.model ≠ some "" := by
  cases denotes with
  | bare _ _ => nofun
  | qualified _ _ nonempty _ => exact fun same => nonempty (Option.some.inj same)
  | headless _ => nofun

/-- A name is displayed again exactly if it does not begin with a dot. -/
theorem Denotes.display_eq_iff (denotes : Denotes text path) :
    path.display = text ↔ text.toList.head? ≠ some '.' := by
  cases denotes with
  | bare _ noDot => exact iff_of_true rfl fun first => noDot (List.mem_of_head? first)
  | qualified model attributeName nonempty noDot =>
      refine iff_of_true rfl fun first => ?_
      obtain ⟨c, rest, leading⟩ :=
        List.exists_cons_of_ne_nil (mt String.toList_eq_nil_iff.mp nonempty)
      rw [leading] at noDot
      rw [toList_joined, leading] at first
      exact noDot (Option.some.inj first ▸ List.mem_cons_self)
  | headless attributeName =>
      refine iff_of_false (ne_headless attributeName) ?_
      rw [toList_joined]
      exact not_not_intro rfl

/-- What a name denotes is unambiguous unless a dot is dropped and another one follows. -/
theorem Denotes.unambiguous_iff (denotes : Denotes text path) :
    path.Unambiguous ↔ text.toList.head? ≠ some '.' ∨ '.' ∉ text.toList.tail := by
  by_cases leading : text.toList.head? = some '.'
  · rw [or_iff_right (not_not_intro leading)]
    cases denotes with
    | bare _ noDot => exact (noDot (List.mem_of_head? leading)).elim
    | qualified model attributeName nonempty noDot =>
        exact ((Denotes.qualified model attributeName nonempty noDot).display_eq_iff.mp rfl
          leading).elim
    | headless attributeName =>
        rw [toList_joined]
        exact or_iff_right (by rintro ⟨_, named, _⟩; cases named) |>.trans (and_iff_right rfl)
  · refine iff_of_true (Denotes.unambiguous ?_) (Or.inl leading)
    rwa [denotes.display_eq_iff.mpr leading]

/-- Unambiguous paths that are shown alike are equal. -/
theorem Unambiguous.eq_of_display {first second : FieldPath} (unambiguous : first.Unambiguous)
    (alsoUnambiguous : second.Unambiguous) (nonempty : first.model ≠ some "")
    (alsoNonempty : second.model ≠ some "") (same : first.display = second.display) :
    first = second :=
  calc
    first = parse first.display := ((parse_display_iff nonempty).mpr unambiguous).symm
    _ = parse second.display := congrArg parse same
    _ = second := (parse_display_iff alsoNonempty).mpr alsoUnambiguous

/-- Paths that are read back from their names differ in their names. -/
theorem Unambiguous.display_eq_iff {first second : FieldPath} (unambiguous : first.Unambiguous)
    (alsoUnambiguous : second.Unambiguous) (nonempty : first.model ≠ some "")
    (alsoNonempty : second.model ≠ some "") :
    first.display = second.display ↔ first = second :=
  ⟨unambiguous.eq_of_display alsoUnambiguous nonempty alsoNonempty, congrArg display⟩

/-- **Which paths survive being displayed and read again.** A path does exactly if its model has no
dot, or if it has no model and its attribute has no dot. A name does exactly if it does not begin
with a dot, and the path read from it does unless it begins with a dot and has a further one. Paths
of this kind that differ are displayed differently, with any suffix, and so two controls that edit
them never hold their values under one key. -/
theorem reparses_exactly :
    (∀ model attributeName,
      parse (make model attributeName).display = make model attributeName ↔
        (make model attributeName).Unambiguous) ∧
    (∀ text, (parse text).display = text ↔ text.toList.head? ≠ some '.') ∧
    (∀ text, parse (parse text).display = parse text ↔
      text.toList.head? ≠ some '.' ∨ '.' ∉ text.toList.tail) ∧
    ∀ model attributeName otherModel otherName,
      let first := make model attributeName
      let second := make otherModel otherName
      first.Unambiguous → second.Unambiguous →
        (first.display = second.display ↔ first = second) ∧
        (∀ suffix, first.confirmationName suffix = second.confirmationName suffix ↔
          first = second) ∧
        ∀ (form : Form) name other, form.fields.get? name = some first →
          form.fields.get? other = some second → (form.SharesKey name other ↔ first = second) := by
  refine ⟨fun model attributeName => parse_display_iff (model_make_ne model attributeName),
    fun text => (denotes_parse text).display_eq_iff, fun text => ?_, ?_⟩
  · rw [parse_display_iff (denotes_parse text).model_ne]
    exact (denotes_parse text).unambiguous_iff
  · intro model attributeName otherModel otherName first second unambiguous alsoUnambiguous
    have told : first.display = second.display ↔ first = second :=
      unambiguous.display_eq_iff alsoUnambiguous (model_make_ne model attributeName)
        (model_make_ne otherModel otherName)
    refine ⟨told, fun suffix => ?_, fun form name other found present => ?_⟩
    · rw [confirmationName, confirmationName, String.append_left_inj, told]
    · rw [Form.sharesKey_iff found present, eq_comm, told]

/-- A dot in an attribute does no harm where there is a model, and is taken for the end of a model
where there is none. -/
theorem reparses_exactly_dottedAttribute :
    let city := make (some "user") "address.city"
    let name := make (some "user") "name"
    let form := ((Form.new (.new "user")).addField { modelPath := some "user.address.city" }).1
    let both := (form.addField { modelPath := some "user.name" }).1
    (city.Unambiguous ∧ name.Unambiguous ∧ both.fields.get? "user.address.city" = some city ∧
        both.fields.get? "user.name" = some name) ∧
      parse city.display = city ∧ city.display ≠ name.display ∧
      ¬ both.SharesKey "user.address.city" "user.name" ∧
      parse (make none "address.city").display ≠ make none "address.city" := by
  intro city name form both
  have nested : city.Unambiguous := Or.inl ⟨"user", rfl, by decide⟩
  have plain : name.Unambiguous := Or.inl ⟨"user", rfl, by decide⟩
  have differ : city ≠ name := by decide
  have found : both.fields.get? "user.address.city" = some city := by decide +kernel
  have present : both.fields.get? "user.name" = some name := by decide +kernel
  obtain ⟨reparses, -, -, apart⟩ := reparses_exactly
  obtain ⟨displays, -, keys⟩ := apart (some "user") "address.city" (some "user") "name" nested plain
  refine ⟨⟨nested, plain, found, present⟩, (reparses _ _).mpr nested, mt displays.mp differ,
    mt (keys both _ _ found present).mp differ, mt (reparses none "address.city").mp ?_⟩
  rintro (⟨_, named, _⟩ | ⟨_, noDot⟩)
  · cases named
  · exact noDot (by decide)

end FieldPath

end FormValidity
