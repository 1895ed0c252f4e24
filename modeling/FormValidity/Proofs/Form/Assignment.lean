import FormValidity.Proofs.Form.Freshness

/-! # The form depends on the final assignment

Two sequences of commits that give every control the same value last leave the same form
behind, whatever their order and their other values (`Form.commitAll_congr`). A sequence
of commits keeps the controls (`Form.SameControls`), stores the last value of each of them
(`Form.value?_commitAll`), and leaves verdicts exactly at the controls that had some, that
were committed, or that hold a value and confirm a committed one
(`Form.isSome_verdicts?_commitAll`). What the verdicts are is then known from
`Form.Tracked`.
-/

namespace FormValidity

/-- The value that a sequence of commits gives a control last. -/
def lastCommit? : List (String × Value) → String → Option Value
  | [], _ => none
  | commit :: rest, name =>
      (lastCommit? rest name).or (if commit.1 = name then some commit.2 else none)

private theorem isSome_lastCommit?_cons (commit : String × Value) (rest : List (String × Value))
    (name : String) :
    (lastCommit? (commit :: rest) name).isSome ↔
      commit.1 = name ∨ (lastCommit? rest name).isSome := by
  rw [lastCommit?, Option.isSome_or, Bool.or_eq_true, or_comm]
  split
  · next same => simp only [same, Option.isSome_some, true_or]
  · next differ => simp only [differ, Option.isSome_none, Bool.false_eq_true, false_or]

namespace Form

/-- The form that a sequence of commits leaves behind. -/
def commitAll (form : Form) (commits : List (String × Value)) : Form :=
  form.run (commits.map fun commit => .setValue commit.1 commit.2)

/-- Two forms hold the same controls and the same records. They may differ in committed
values and in verdicts. -/
structure SameControls (before after : Form) : Prop where
  fields : after.fields = before.fields
  engine : before.engine.SameFields after.engine
  records : after.records = before.records

/-- A control looks at the value of another one. -/
def DependsOn (form : Form) (name other : String) : Prop :=
  name ≠ other ∧ ∃ path, form.fields.get? other = some path ∧ form.Confirms name path.display

variable {form before after : Form} {suffix : String}

namespace SameControls

private theorem refl (form : Form) : SameControls form form := ⟨rfl, .refl _, rfl⟩

private theorem trans {between : Form} (left : before.SameControls between)
    (right : between.SameControls after) : before.SameControls after where
  fields := right.fields.trans left.fields
  engine := left.engine.trans right.engine
  records := right.records.trans left.records

variable (same : before.SameControls after)
include same

/-- The same controls have distinct keys or not. -/
theorem keysDistinct : after.KeysDistinct ↔ before.KeysDistinct := by
  rw [KeysDistinct, same.fields, KeysDistinct]

/-- The same controls have the same names. -/
theorem contains (name : String) : after.contains name = before.contains name :=
  congrArg (OrderedMap.contains · name) same.fields

private theorem dependsOn (name other : String) :
    after.DependsOn name other ↔ before.DependsOn name other := by
  simp only [DependsOn, Confirms, same.fields, same.engine.compiled?, same.engine.registry]

end SameControls

/-- A commit leaves the controls as they are. -/
theorem sameControls_setValue (inStep : form.InStep) (name : String) (value : Value) :
    form.SameControls (form.setValue name value).1 := by
  cases found : form.fields.get? name with
  | none =>
      rw [setValue_of_unregistered found]
      exact .refl form
  | some path =>
      obtain ⟨_, _, committed, kept, _⟩ := setValue_of_registered found inStep value
      rw [committed]
      exact ⟨rfl, kept, rfl⟩

/-- Commits leave the controls as they are. -/
theorem sameControls_commitAll (inStep : form.InStep) (commits : List (String × Value)) :
    form.SameControls (form.commitAll commits) := by
  induction commits generalizing form with
  | nil => exact .refl form
  | cons commit rest ih =>
      exact (sameControls_setValue inStep commit.1 commit.2).trans
        (ih (inStep.step (.setValue commit.1 commit.2)))

/-- Commits keep the stored verdicts tracked. -/
theorem Tracked.commitAll (tracked : form.Tracked suffix) (distinct : form.KeysDistinct)
    (commits : List (String × Value)) : (form.commitAll commits).Tracked suffix := by
  induction commits generalizing form with
  | nil => exact tracked
  | cons commit rest ih =>
      have stepped : (form.step (.setValue commit.1 commit.2)).Tracked suffix :=
        tracked.step distinct trivial fun replaces => nomatch replaces
      have same := sameControls_setValue tracked.inStep commit.1 commit.2
      exact ih stepped (same.keysDistinct.mpr distinct)

section Values

/-- A commit stores its value at its own control and nowhere else. -/
theorem value?_setValue (inStep : form.InStep) (distinct : form.KeysDistinct) (name : String)
    (value : Value) {other : String} (held : form.contains other) :
    (form.setValue name value).1.value? other =
      if name = other then some value else form.value? other := by
  cases found : form.fields.get? name with
  | none =>
      have differ : name ≠ other := by
        rintro rfl
        obtain ⟨path, present⟩ := (form.contains_iff name).mp held
        cases found.symm.trans present
      rw [setValue_of_unregistered found, if_neg differ]
  | some path =>
      obtain ⟨_, _, committed, _⟩ := setValue_of_registered found inStep value
      rw [committed]
      change (form.store path value).value? other = _
      split
      · next same => exact same ▸ value?_store found value
      · next differ => exact distinct.value?_store_of_ne found differ value

/-- A commit leaves the keys of no control alone. -/
theorem get?_values_setValue_of_free (inStep : form.InStep) (name : String) (value : Value)
    {key : String}
    (free : ∀ other path, form.fields.get? other = some path → path.display ≠ key) :
    (form.setValue name value).1.values.get? key = form.values.get? key := by
  cases found : form.fields.get? name with
  | none => rw [setValue_of_unregistered found]
  | some path =>
      obtain ⟨_, _, committed, _⟩ := setValue_of_registered found inStep value
      rw [committed]
      exact form.values.get?_insert_of_ne (free name path found) value

/-- After a sequence of commits a control holds the value it was given last. -/
theorem value?_commitAll (inStep : form.InStep) (distinct : form.KeysDistinct)
    (commits : List (String × Value)) {name : String} (held : form.contains name) :
    (form.commitAll commits).value? name = (lastCommit? commits name).or (form.value? name) := by
  induction commits generalizing form with
  | nil => rfl
  | cons commit rest ih =>
      have same := sameControls_setValue inStep commit.1 commit.2
      have later := ih (inStep.step (.setValue commit.1 commit.2))
        (same.keysDistinct.mpr distinct) ((same.contains name).trans held)
      refine later.trans ?_
      rw [lastCommit?, Option.or_assoc]
      congr 1
      refine (value?_setValue inStep distinct commit.1 commit.2 held).trans ?_
      split <;> rfl

private theorem get?_values_commitAll_of_free (inStep : form.InStep)
    (commits : List (String × Value))
    {key : String}
    (free : ∀ other path, form.fields.get? other = some path → path.display ≠ key) :
    (form.commitAll commits).values.get? key = form.values.get? key := by
  induction commits generalizing form with
  | nil => rfl
  | cons commit rest ih =>
      have same := sameControls_setValue inStep commit.1 commit.2
      refine (ih (inStep.step (.setValue commit.1 commit.2)) fun other path found => ?_).trans
        (get?_values_setValue_of_free inStep commit.1 commit.2 free)
      exact free other path ((congrArg (OrderedMap.get? · other) same.fields).symm.trans found)

end Values

section Verdicts

/-- Whether a sequence of commits evaluates a control: it commits the control, or it
commits one that the control depends on while it holds a value. -/
def Evaluates (form : Form) (commits : List (String × Value)) (name : String) : Prop :=
  (lastCommit? commits name).isSome ∨
    (form.value? name).isSome ∧
      ∃ other, (lastCommit? commits other).isSome ∧ form.DependsOn name other

private theorem isSome_current?_iff (form : Form) (name : String) :
    (form.current? name).isSome ↔
      (∃ compiled, form.engine.compiled? name = some compiled) ∧ (form.value? name).isSome := by
  rw [current?, Option.isSome_bind, Option.any_eq_true]
  simp only [Option.isSome_map, exists_and_right]

/-- The dependents of a commit are the controls that depend on its own and hold a value
already. -/
theorem mem_dependents_store_iff (distinct : form.KeysDistinct) {name : String}
    {path : FieldPath} (found : form.fields.get? name = some path) (value : Value)
    (other : String) :
    other ∈ (form.store path value).dependents name path.display ↔
      (form.value? other).isSome ∧ form.DependsOn other name := by
  have depends : form.DependsOn other name ↔ other ≠ name ∧ form.Confirms other path.display := by
    simp only [DependsOn, found, Option.some.injEq, exists_eq_left']
  rw [mem_dependents_iff, depends]
  change other ≠ name ∧ form.Confirms other path.display ∧ _ ↔ _
  rw [← and_assoc, and_comm]
  refine and_congr_left fun apart => ?_
  rw [distinct.value?_store_of_ne found (Ne.symm apart.1)]

/-- A commit leaves verdicts at its own control and at those that depend on it and hold a
value; the other controls keep theirs. -/
theorem isSome_verdicts?_setValue (inStep : form.InStep) (distinct : form.KeysDistinct)
    {name : String} {path : FieldPath} (found : form.fields.get? name = some path) (value : Value)
    (other : String) :
    ((form.setValue name value).1.verdicts? other).isSome ↔
      (form.verdicts? other).isSome ∨ name = other ∨
        (form.value? other).isSome ∧ form.DependsOn other name := by
  obtain ⟨engine, _, committed, _, _, stored⟩ := setValue_of_registered found inStep value
  have answer : (form.setValue name value).1.verdicts? other = engine.verdicts? other := by
    rw [committed]
    rfl
  rw [answer, stored other, ← mem_dependents_store_iff distinct found value other]
  split
  · next evaluated =>
      refine iff_of_true ?_ (Or.inr (evaluated.imp_left Eq.symm))
      rw [isSome_current?_iff]
      rcases evaluated with rfl | member
      · obtain ⟨compiled, present, _⟩ := inStep.compiled?_of_path found
        exact ⟨⟨compiled, present⟩, by rw [value?_store found]; rfl⟩
      · obtain ⟨_, ⟨_, compiled, _, present, _⟩, holds⟩ := (mem_dependents_iff _ _ _ _).mp member
        exact ⟨⟨compiled, present⟩, holds⟩
  · next idle =>
      exact ⟨Or.inl, fun due => due.resolve_right fun now => idle (now.imp_left Eq.symm)⟩

private theorem evaluates_cons_iff (form : Form) (commit : String × Value)
    (rest : List (String × Value)) (name : String) :
    form.Evaluates (commit :: rest) name ↔
      (commit.1 = name ∨ (form.value? name).isSome ∧ form.DependsOn name commit.1) ∨
        form.Evaluates rest name := by
  simp only [Evaluates, isSome_lastCommit?_cons, or_and_right, exists_or, exists_eq_left',
    and_or_left]
  exact or_or_or_comm

private theorem evaluates_cons_of_unregistered {commit : String × Value}
    (absent : form.fields.get? commit.1 = none) (rest : List (String × Value)) {name : String}
    (held : form.contains name) :
    form.Evaluates (commit :: rest) name ↔ form.Evaluates rest name := by
  rw [evaluates_cons_iff]
  refine or_iff_right (not_or.mpr ⟨?_, ?_⟩)
  · rintro rfl
    obtain ⟨path, present⟩ := (form.contains_iff commit.1).mp held
    cases absent.symm.trans present
  · rintro ⟨_, _, path, present, _⟩
    cases absent.symm.trans present

/-- What the commits after the first one evaluate depends on the first one in that its
control holds a value now. -/
theorem evaluates_setValue_iff (inStep : form.InStep) (distinct : form.KeysDistinct)
    (name : String) (value : Value) (rest : List (String × Value)) {other : String}
    (held : form.contains other) :
    name = other ∨ (form.setValue name value).1.Evaluates rest other ↔
      name = other ∨ form.Evaluates rest other := by
  have same := sameControls_setValue inStep name value
  refine or_congr_right' fun differ => ?_
  rw [Evaluates, Evaluates, value?_setValue inStep distinct name value held, if_neg differ]
  simp only [same.dependsOn]

/-- After a sequence of commits a control has verdicts exactly if it had some before or
the sequence evaluates it. -/
theorem isSome_verdicts?_commitAll (inStep : form.InStep) (distinct : form.KeysDistinct)
    (commits : List (String × Value)) {name : String} (held : form.contains name) :
    ((form.commitAll commits).verdicts? name).isSome ↔
      (form.verdicts? name).isSome ∨ form.Evaluates commits name := by
  induction commits generalizing form with
  | nil =>
      have idle : ¬ form.Evaluates [] name := by
        rintro (committed | ⟨_, _, committed, _⟩) <;> cases committed
      exact (or_iff_left idle).symm
  | cons commit rest ih =>
      obtain ⟨first, value⟩ := commit
      have same := sameControls_setValue inStep first value
      refine (ih (inStep.step (.setValue first value)) (same.keysDistinct.mpr distinct)
        ((same.contains name).trans held)).trans ?_
      change ((form.setValue first value).1.verdicts? name).isSome ∨
        (form.setValue first value).1.Evaluates rest name ↔ _
      cases found : form.fields.get? first with
      | none => rw [evaluates_cons_of_unregistered found rest held, setValue_of_unregistered found]
      | some path =>
          rw [isSome_verdicts?_setValue inStep distinct found, evaluates_cons_iff, or_assoc]
          refine or_congr_right ?_
          rw [or_right_comm, evaluates_setValue_iff inStep distinct first value rest held,
            or_right_comm]

end Verdicts

section Congruence

/-- Two sequences of commits give every control of a form the same value last. In
particular they commit the same controls of the form. -/
def SameAssignment (form : Form) (first second : List (String × Value)) : Prop :=
  ∀ name, form.contains name → lastCommit? first name = lastCommit? second name

variable {first second : List (String × Value)}

/-- Commits with the same last values leave the same values. -/
theorem value?_commitAll_congr (inStep : form.InStep) (distinct : form.KeysDistinct)
    (agree : form.SameAssignment first second) (name : String) :
    (form.commitAll first).value? name = (form.commitAll second).value? name := by
  by_cases held : form.contains name
  · rw [value?_commitAll inStep distinct first held, agree name held,
      value?_commitAll inStep distinct second held]
  · have absent : form.fields.get? name = none := Option.not_isSome_iff_eq_none.mp held
    rw [value?, value?, (sameControls_commitAll inStep first).fields,
      (sameControls_commitAll inStep second).fields, absent]
    rfl

/-- The forms that two sequences leave behind show the same to all predicates. -/
theorem context_commitAll_congr (inStep : form.InStep) (distinct : form.KeysDistinct)
    (agree : form.SameAssignment first second) :
    (form.commitAll first).context = (form.commitAll second).context := by
  have left := sameControls_commitAll inStep first
  have right := sameControls_commitAll inStep second
  have values : (form.commitAll first).values.get? = (form.commitAll second).values.get? := by
    funext key
    by_cases claimed : ∃ name path, form.fields.get? name = some path ∧ path.display = key
    · obtain ⟨name, path, found, rfl⟩ := claimed
      have same := value?_commitAll_congr inStep distinct agree name
      rw [value?, value?, left.fields, right.fields, found] at same
      exact same
    · have free : ∀ name path, form.fields.get? name = some path → path.display ≠ key :=
        fun name path found same => claimed ⟨name, path, found, same⟩
      rw [get?_values_commitAll_of_free inStep first free,
        get?_values_commitAll_of_free inStep second free]
  rw [context, context, Context.ofMaps, Context.ofMaps, values, left.records, right.records]

/-- Commits with the same last values evaluate the same controls. -/
theorem evaluates_congr (agree : form.SameAssignment first second) {name : String}
    (held : form.contains name) : form.Evaluates first name ↔ form.Evaluates second name := by
  have others : ∀ other, form.DependsOn name other →
      lastCommit? first other = lastCommit? second other := by
    rintro other ⟨_, path, found, _⟩
    exact agree other ((form.contains_iff other).mpr ⟨path, found⟩)
  rw [Evaluates, Evaluates, agree name held]
  refine or_congr_right (and_congr_right fun _ => exists_congr fun other => ?_)
  exact and_congr_left fun depends => by rw [others other depends]

/-- Fresh verdicts are determined by where there are some. -/
theorem Fresh.verdicts?_eq {left right : Form} (leftFresh : left.Fresh) (rightFresh : right.Fresh)
    {name : String} (due : left.current? name = right.current? name)
    (both : (left.verdicts? name).isSome ↔ (right.verdicts? name).isSome) :
    left.verdicts? name = right.verdicts? name := by
  cases stored : left.verdicts? name with
  | none =>
      rw [stored, Option.isSome_none, Bool.false_eq_true, false_iff,
        Option.not_isSome_iff_eq_none] at both
      exact both.symm
  | some verdicts =>
      obtain ⟨other, answer⟩ := Option.isSome_iff_exists.mp (both.mp (stored ▸ rfl))
      rw [answer, ← leftFresh name verdicts stored, due, rightFresh name other answer]

/-- Commits with the same last values leave the same verdicts. -/
theorem verdicts?_commitAll_congr (tracked : form.Tracked suffix) (distinct : form.KeysDistinct)
    (agree : form.SameAssignment first second) (name : String) :
    (form.commitAll first).verdicts? name = (form.commitAll second).verdicts? name := by
  have inStep := tracked.inStep
  have left := sameControls_commitAll inStep first
  have right := sameControls_commitAll inStep second
  have leftTracked := tracked.commitAll distinct first
  have rightTracked := tracked.commitAll distinct second
  by_cases held : form.contains name
  · refine leftTracked.fresh.verdicts?_eq rightTracked.fresh ?_ ?_
    · rw [current?, current?, left.engine.compiled?, right.engine.compiled?,
        value?_commitAll_congr inStep distinct agree, context_commitAll_congr inStep distinct agree]
    · rw [isSome_verdicts?_commitAll inStep distinct first held, evaluates_congr agree held,
        isSome_verdicts?_commitAll inStep distinct second held]
  · rw [leftTracked.inStep.verdicts?_of_absent (left.contains name ▸ held),
      rightTracked.inStep.verdicts?_of_absent (right.contains name ▸ held)]

end Congruence

/-- Whether a form is valid depends on its controls and their verdicts. -/
theorem isFormValid_congr {left right : Form} (fields : left.fields = right.fields)
    (verdicts : ∀ name, left.verdicts? name = right.verdicts? name) :
    left.isFormValid = right.isFormValid := by
  have valid : left.isValid? = right.isValid? :=
    funext fun name => congrArg (Option.map Verdicts.isValid) (verdicts name)
  rw [isFormValid, isFormValid, fields, valid]

/-- **The form depends on the final assignment only.** From every form that an orderly run
on the standard predicates reaches, under any configuration, two sequences of commits that
give every control the same value last end with the same committed values, with verdicts
at the same controls, with the same verdicts there, and with the same validity of the
form. The sequences may order their commits differently, repeat them, and commit other
values in between. -/
theorem commitAll_congr (model : Model) (config : FormConfig) (operations : List Operation)
    (orderly : (Form.withConfig model config).Orderly operations)
    (first second : List (String × Value))
    (agree : ((Form.withConfig model config).run operations).SameAssignment first second) :
    let left := ((Form.withConfig model config).run operations).commitAll first
    let right := ((Form.withConfig model config).run operations).commitAll second
    (∀ name, left.value? name = right.value? name ∧ left.verdicts? name = right.verdicts? name) ∧
      left.isFormValid = right.isFormValid := by
  intro left right
  have tracked := Tracked.of_orderly orderly
  have distinct := orderly.keysDistinct.run
  have verdicts := verdicts?_commitAll_congr tracked distinct agree
  refine ⟨fun name => ⟨value?_commitAll_congr tracked.inStep distinct agree name, verdicts name⟩,
    isFormValid_congr ?_ verdicts⟩
  rw [(sameControls_commitAll tracked.inStep first).fields,
    (sameControls_commitAll tracked.inStep second).fields]

/-- A password that is changed after its confirmation. -/
def hesitantCommits : List (String × Value) :=
  [("user.password", .str "secret"), ("user.passwordConfirmation", .str "hidden"),
    ("user.password", .str "hidden")]

/-- The same password and confirmation, without the change. -/
def directCommits : List (String × Value) :=
  [("user.passwordConfirmation", .str "hidden"), ("user.password", .str "hidden")]

private theorem lastCommit?_hesitantCommits (name : String) :
    lastCommit? hesitantCommits name = lastCommit? directCommits name := by
  by_cases password : "user.password" = name
  · subst password
    rfl
  · simp only [hesitantCommits, directCommits, lastCommit?, password, ↓reduceIte, Option.or_none,
      Option.none_or]

/-- The hesitation leaves no trace in the form. -/
theorem commitAll_congr_hesitantCommits :
    let form := (withConfig passwordModel .standard).run confirmingRun
    form.SameAssignment hesitantCommits directCommits ∧
    (∀ name,
      (form.commitAll hesitantCommits).value? name = (form.commitAll directCommits).value? name ∧
      (form.commitAll hesitantCommits).verdicts? name =
        (form.commitAll directCommits).verdicts? name) ∧
    (form.commitAll hesitantCommits).isFormValid = (form.commitAll directCommits).isFormValid :=
  ⟨fun name _ => lastCommit?_hesitantCommits name,
    commitAll_congr passwordModel .standard confirmingRun orderly_confirmingRun hesitantCommits
      directCommits fun name _ => lastCommit?_hesitantCommits name⟩

end Form

end FormValidity
