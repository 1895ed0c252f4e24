import FormValidity.Proofs.Form.History

/-! # What a commit leaves alone

A commit changes the value under its key and the verdicts of its control and of the controls that
confirm the key and hold a value (`Form.CommitFrame`). Other controls may share the key, and with an
empty suffix a control confirms itself: neither widens the frame. A commit that is overwritten
leaves no trace (`Form.setValue_setValue`), since what is evaluated and on which values does not
depend on the value that was stored before. Both hold in every state that a run can reach
(`Setup.run_commit_framed`).
-/

namespace FormValidity

namespace Engine

private theorem SameFields.symm {first second : Engine} (same : SameFields first second) :
    SameFields second first :=
  ⟨same.registry.symm, same.names.symm, fun name => (same.compiled? name).symm⟩

/-- Engines with the same fields that keep the same verdicts are the same engine. -/
theorem SameFields.eq_of_verdicts? {first second : Engine} (same : SameFields first second)
    (verdicts : ∀ name, second.verdicts? name = first.verdicts? name) : second = first := by
  -- a tracked field is its compiled field and its verdicts, and both are looked up by name
  have tracked : ∀ name, second.fields.get? name = first.fields.get? name := by
    intro name
    have compiled := same.compiled? name
    have latest := verdicts name
    unfold Engine.compiled? at compiled
    unfold Engine.verdicts? at latest
    cases left : second.fields.get? name with
    | none =>
        rw [left, Option.map_none] at compiled
        exact (Option.map_eq_none_iff.mp compiled.symm).symm
    | some after =>
        cases right : first.fields.get? name with
        | none =>
            rw [left, right] at compiled
            cases compiled
        | some before =>
            rw [left, right] at compiled latest
            obtain ⟨_, _⟩ := after
            obtain ⟨_, _⟩ := before
            cases compiled
            cases latest
            rfl
  have fields : second.fields = first.fields := OrderedMap.ext_get? same.names tracked
  have registry := same.registry
  cases first
  cases second
  cases fields
  cases registry
  rfl

end Engine

namespace Form

variable {form : Form}

/-- Whether a control holds a value does not depend on which value is stored. -/
theorem dependents_store_congr (form : Form) (path : FieldPath) (first second : Value)
    (name key : String) :
    (form.store path first).dependents name key = (form.store path second).dependents name key := by
  have holds : ∀ other, (form.values.insert path.display first).contains other =
      (form.values.insert path.display second).contains other := by
    intro other
    rw [OrderedMap.contains, OrderedMap.contains, OrderedMap.get?_insert, OrderedMap.get?_insert]
    split <;> rfl
  simp only [dependents, store, holds]

/-- What a commit of a value to a control under a key may change in a form. -/
structure CommitFrame (before : Form) (name key : String) (value : Value) (after : Form) :
    Prop where
  setup : after.setup = before.setup
  formName : after.name = before.name
  ownValue : after.values.get? key = some value
  otherValues : ∀ other, other ≠ key → after.values.get? other = before.values.get? other
  records : after.records = before.records
  fields : after.fields = before.fields
  compiled : before.engine.SameFields after.engine
  verdicts : ∀ other, after.verdicts? other ≠ before.verdicts? other →
    other = name ∨ before.Confirms other key ∧ (after.value? other).isSome

section Registered

variable (inStep : form.InStep) {name : String} {path : FieldPath}
  (found : form.fields.get? name = some path)
include inStep found

/-- A commit changes nothing outside its frame. -/
theorem commitFrame_setValue (value : Value) :
    form.CommitFrame name path.display value (form.setValue name value).1 := by
  obtain ⟨engine, _, committed, kept, _, stored⟩ := setValue_of_registered found inStep value
  rw [committed]
  exact
    { setup := congrArg (Setup.mk form.model form.config) kept.registry
      formName := rfl
      ownValue := form.values.get?_insert_self path.display value
      otherValues := fun other differ => form.values.get?_insert_of_ne (Ne.symm differ) value
      records := rfl
      fields := rfl
      compiled := kept
      verdicts := fun other changed => by
        by_contra idle
        obtain ⟨differ, unrelated⟩ := not_or.mp idle
        refine changed ((stored other).trans (if_neg ?_))
        rintro (own | dependent)
        · exact differ own
        · exact unrelated ((mem_dependents_iff _ name path.display other).mp dependent).2 }

/-- Of two commits to one control the first leaves no trace, in the form and in the answer. -/
theorem setValue_setValue (first second : Value) :
    (form.setValue name first).1.setValue name second = form.setValue name second := by
  obtain ⟨earlier, _, once, kept, _, storedOnce⟩ := setValue_of_registered found inStep first
  obtain ⟨engine, verdicts, directly, same, answer, stored⟩ :=
    setValue_of_registered found inStep second
  let between := (form.store path first).withEngine earlier
  have inStepBetween : between.InStep := inStep.of_sameFields rfl kept
  have foundBetween : between.fields.get? name = some path := found
  obtain ⟨later, latest, twice, keptTwice, answerTwice, storedTwice⟩ :=
    setValue_of_registered foundBetween inStepBetween second
  have overwritten : between.store path second = (form.store path second).withEngine earlier := by
    simp only [between, store, withEngine, OrderedMap.insert_insert]
  -- a control that neither commit evaluates keeps the verdicts from before both
  have idle : ∀ other,
      ¬ (other = name ∨ other ∈ (form.store path second).dependents name path.display) →
        earlier.verdicts? other = form.verdicts? other := by
    intro other unrelated
    rw [storedOnce, form.dependents_store_congr path first second, if_neg unrelated]
  have sameEngine : later = engine := by
    refine (same.symm.trans (kept.trans keptTwice)).eq_of_verdicts? fun other => ?_
    have keptStored : (form.store path second).engine.SameFields earlier := kept
    rw [storedTwice, stored, overwritten, dependents_withEngine _ keptStored,
      current?_withEngine _ keptStored]
    split
    · rfl
    · next unrelated => exact idle other unrelated
  have sameAnswer : latest = verdicts :=
    Option.some.inj (answerTwice.symm.trans (sameEngine ▸ answer))
  have again : (form.setValue name first).1 = between := congrArg Prod.fst once
  rw [again, twice, directly, overwritten, sameEngine, sameAnswer]
  rfl

end Registered

end Form

/-- **A commit touches what it names, and an overwritten one leaves no trace.** After any run on
any registry, a commit to a registered control succeeds with a change inside its frame, and of two
commits in a row only the second one shows. -/
theorem Setup.run_commit_framed (setup : Setup) (operations : List Operation) {name : String}
    {path : FieldPath} (found : (setup.form.run operations).fields.get? name = some path) :
    let form := setup.form.run operations
    (∀ value, form.CommitFrame name path.display value (form.setValue name value).1) ∧
      ∀ first second,
        (form.setValue name first).1.setValue name second = form.setValue name second := by
  intro form
  have inStep : form.InStep := setup.inStep_run operations
  exact ⟨Form.commitFrame_setValue inStep found, Form.setValue_setValue inStep found⟩

/-- The empty suffix, with which a control confirms itself. -/
def mirrorSetup : Setup :=
  ⟨.new "user", .standard, Registry.builtin.withConfirmationSuffix ""⟩

/-- Two controls edit one attribute and confirm it. Neither of them holds a value yet. -/
def mirrorRun : List Operation :=
  let schema := Schema.empty.declare "confirmation" (.flag true)
  [.addFieldWith { modelPath := some "user.email", name := some "typed" } schema,
    .addFieldWith { modelPath := some "user.email", name := some "shown" } schema]

/-- A commit through the second control gives both a value, so the first is evaluated with it. -/
theorem Setup.run_commit_framed_mirrorRun :
    let form := mirrorSetup.form.run mirrorRun
    let after := (form.setValue "shown" (.str "porky@acme.org")).1
    (form.verdicts? "typed" = none ∧
      after.verdicts? "typed" = some (Verdicts.empty.record "confirmation" true)) ∧
    form.CommitFrame "shown" "user.email" (.str "porky@acme.org") after ∧
    (form.setValue "shown" .null).1.setValue "shown" (.str "porky@acme.org") =
      form.setValue "shown" (.str "porky@acme.org") := by
  have framed := Setup.run_commit_framed mirrorSetup mirrorRun
    (show (mirrorSetup.form.run mirrorRun).fields.get? "shown" =
      some ⟨some "user", "email"⟩ from rfl)
  exact ⟨⟨rfl, rfl⟩, framed.1 (.str "porky@acme.org"), framed.2 .null (.str "porky@acme.org")⟩

end FormValidity
