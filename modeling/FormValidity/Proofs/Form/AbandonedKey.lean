import FormValidity.Proofs.Form.Freshness
import FormValidity.Proofs.Form.History

/-! # Values under keys that no control has any more

A form keeps a committed value under its key for good, while a control that is registered again may
take another key. The values that a form shows to predicates are those of its own controls
(`Form.Accounted`) until an operation takes a control away from a key that holds a value and that no
other control has, and exactly such an operation ends it (`Form.accounted_step_iff`,
`Setup.throughout_accounted_iff`). From then on a confirmation can be met by the value of a field
that the form has no more (`Form.abandoned_movingRun`).
-/

namespace FormValidity

namespace Form

/-- Some control of the form has the committed key. -/
def OwnsKey (form : Form) (key : String) : Prop := key ∈ form.fields.values.map FieldPath.display

instance (form : Form) (key : String) : Decidable (form.OwnsKey key) :=
  inferInstanceAs (Decidable (key ∈ _))

/-- The values that the form shows to predicates are those of its controls. -/
def Accounted (form : Form) : Prop :=
  ∀ key, (form.context.fieldValue? key).isSome → form.OwnsKey key

/-- The operation takes a control away from a key that holds a value and that no other control
has. -/
def Abandons (form : Form) (operation : Operation) : Prop :=
  ∃ control path, form.setup.registered? operation = some control ∧
    form.fields.get? (form.setup.name control) = some path ∧
    path.display ≠ (form.setup.path control).display ∧
    (form.context.fieldValue? path.display).isSome ∧
    ∀ other its, form.fields.get? other = some its → its.display = path.display →
      other = form.setup.name control

/-- No operation of a run abandons a key. -/
def NeverAbandons (form : Form) : List Operation → Prop
  | [] => True
  | operation :: rest => ¬ form.Abandons operation ∧ (form.step operation).NeverAbandons rest

variable {form : Form}

private theorem ownsKey_iff (form : Form) (key : String) :
    form.OwnsKey key ↔ ∃ name path, form.fields.get? name = some path ∧ path.display = key := by
  simp only [OwnsKey, OrderedMap.values, List.map_map, List.mem_map, Prod.exists,
    form.fields.mem_entries_iff, Function.comp_apply]

/-- A registration gives the key of its path to its control, which loses the one it had. -/
theorem ownsKey_register_iff (form : Form) (name : String) (path : FieldPath) (schema : Schema)
    (key : String) :
    (form.register name path schema).OwnsKey key ↔ path.display = key ∨
      ∃ other its, other ≠ name ∧ form.fields.get? other = some its ∧ its.display = key := by
  have fields : ∀ other, (form.register name path schema).fields.get? other =
      if name = other then some path else form.fields.get? other :=
    fun other => form.fields.get?_insert name other path
  rw [ownsKey_iff]
  constructor
  · rintro ⟨other, its, found, same⟩
    rw [fields] at found
    by_cases own : name = other
    · rw [if_pos own] at found
      cases found
      exact Or.inl same
    · rw [if_neg own] at found
      exact Or.inr ⟨other, its, Ne.symm own, found, same⟩
  · rintro (same | ⟨other, its, differ, found, same⟩)
    · exact ⟨name, path, by rw [fields, if_pos rfl], same⟩
    · exact ⟨other, its, by rw [fields, if_neg (Ne.symm differ), found], same⟩

/-- An operation stores values under the keys of the form's controls only. -/
theorem fieldValue?_step (inStep : form.InStep) (operation : Operation) (key : String) :
    (form.step operation).context.fieldValue? key = form.context.fieldValue? key ∨
      form.OwnsKey key := by
  rcases form.step_cases operation with same | ⟨binding, schema, _, _, same⟩ |
    ⟨name, value, path, _, found, same⟩ | ⟨model, records, _, same⟩
  · exact Or.inl (by rw [same])
  · exact Or.inl (by rw [same]; rfl)
  · by_cases own : path.display = key
    · exact Or.inr ((form.ownsKey_iff key).mpr ⟨name, path, found, own⟩)
    · obtain ⟨engine, _, committed, _⟩ := setValue_of_registered found inStep value
      rw [same, committed]
      exact Or.inl (form.values.get?_insert_of_ne own value)
  · exact Or.inl (by rw [same]; rfl)

/-- Only a registration changes which keys are owned. -/
theorem ownsKey_step_of_silent (inStep : form.InStep) {operation : Operation}
    (silent : form.setup.registered? operation = none) (key : String) :
    (form.step operation).OwnsKey key ↔ form.OwnsKey key := by
  have fields : ∀ name, (form.step operation).fields.get? name = form.fields.get? name := by
    intro name
    rw [(inStep.step operation).path, inStep.path,
      (sameFields_step_of_silent inStep silent).compiled?]
  simp only [ownsKey_iff, fields]

/-- The values that a form shows stay those of its controls exactly if no key is abandoned. -/
theorem accounted_step_iff (inStep : form.InStep) (accounted : form.Accounted)
    (operation : Operation) : (form.step operation).Accounted ↔ ¬ form.Abandons operation := by
  cases registers : form.setup.registered? operation with
  | none =>
      have idle : ¬ form.Abandons operation := by
        rintro ⟨control, _, registered, _⟩
        cases registers.symm.trans registered
      refine iff_of_true (fun key shown => ?_) idle
      rw [ownsKey_step_of_silent inStep registers]
      rcases fieldValue?_step inStep operation key with same | owned
      · exact accounted key (same ▸ shown)
      · exact owned
  | some control =>
      have stepped := step_of_registered? registers
      have shows : ∀ key, (form.step operation).context.fieldValue? key =
          form.context.fieldValue? key := by
        intro key
        rw [stepped]
        rfl
      have owns := form.ownsKey_register_iff (form.setup.name control) (form.setup.path control)
        control.schema
      rw [← stepped] at owns
      constructor
      · rintro kept ⟨_, path, again, found, moved, holds, alone⟩
        cases registers.symm.trans again
        have shown := kept path.display (by rw [shows]; exact holds)
        rcases (owns path.display).mp shown with same | ⟨other, its, differ, present, same⟩
        · exact moved same.symm
        · exact differ (alone other its present same)
      · intro stays key shown
        rw [shows] at shown
        obtain ⟨name, path, found, rfl⟩ := (form.ownsKey_iff key).mp (accounted key shown)
        rw [owns]
        by_cases another : ∃ other its, other ≠ form.setup.name control ∧
            form.fields.get? other = some its ∧ its.display = path.display
        · exact Or.inr another
        -- The control registered again is the only one with the key, so it keeps the key.
        · have alone : ∀ other its, form.fields.get? other = some its →
              its.display = path.display → other = form.setup.name control := by
            intro other its present same
            by_contra differ
            exact another ⟨other, its, differ, present, same⟩
          have own := alone name path found rfl
          by_contra moved
          refine stays ⟨control, path, registers, own ▸ found, ?_, shown, alone⟩
          exact fun same => moved (Or.inl same.symm)

/-- The values stay those of owned keys if and only if no key with a value is abandoned. -/
theorem throughout_accounted_iff (inStep : form.InStep) (accounted : form.Accounted)
    (operations : List Operation) :
    form.Throughout Accounted operations ↔ form.NeverAbandons operations := by
  induction operations generalizing form with
  | nil => exact iff_of_true accounted trivial
  | cons operation rest ih =>
      have first := accounted_step_iff inStep accounted operation
      constructor
      · rintro ⟨_, later⟩
        have next : (form.step operation).Accounted := later.start
        exact ⟨first.mp next, (ih (inStep.step operation) next).mp later⟩
      · rintro ⟨stays, later⟩
        have next := first.mpr stays
        exact ⟨accounted, (ih (inStep.step operation) next).mpr later⟩

end Form

/-- All along a run the values that a form shows to predicates are those of its controls, exactly if
no operation of the run abandons a key. -/
theorem Setup.throughout_accounted_iff (setup : Setup) (operations : List Operation) :
    setup.form.Throughout Form.Accounted operations ↔ setup.form.NeverAbandons operations := by
  have accounted : setup.form.Accounted := fun _ shown => nomatch shown
  exact Form.throughout_accounted_iff setup.inStep_form accounted operations

namespace Form

/-- The control that repeats a password edits the address from some moment on. -/
def movingRun : List Operation :=
  [.addField { modelPath := some "user.password" },
    .addField { modelPath := some "user.passwordConfirmation", name := some "repeat" },
    .setValue "repeat" (.str "secret"),
    .addField { modelPath := some "user.email", name := some "repeat" },
    .setValue "user.password" (.str "secret")]

/-- No control has the key of the repeated password any more, and yet the form shows a value under
it, which confirms the password. -/
theorem abandoned_movingRun :
    let form := (new passwordModel).run movingRun
    form.fieldNames = ["user.password", "repeat"] ∧
      form.context.fieldValue? "user.passwordConfirmation" = some (.str "secret") ∧
      ¬ form.OwnsKey "user.passwordConfirmation" ∧
      form.verdicts? "user.password" = some (Verdicts.empty.record "confirmation" true) :=
  ⟨rfl, rfl, by decide, rfl⟩

end Form

end FormValidity
