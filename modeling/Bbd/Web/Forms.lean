import Bbd.Web.Injection

/-!
# The two validators of times

`forms.py` checks the hours and minutes of a formset, field by field and then in
`BaseCicleFormSet.clean`; `create_new_schedule` in `views.py` checks the combined minutes of the
day.  What each of them accepts is spelled out (`clean_eq_ok_iff`,
`createNewSchedule_isSome_iff`).  The first refuses more than what is no time of the day, a value
of zero and a stop minute beyond 23, and the second less (`validators_agree_iff`).
-/

namespace Bbd.Web

open Server

/-- Four integers: the hour and the minute of the start and of the stop. -/
structure Times where
  startHour : ℤ
  startMin : ℤ
  stopHour : ℤ
  stopMin : ℤ
  deriving DecidableEq, Repr

namespace Times

/-- `start_h*60+start_m`. -/
def startTime (t : Times) : ℤ := t.startHour * 60 + t.startMin

/-- `stop_h*60+stop_m`. -/
def stopTime (t : Times) : ℤ := t.stopHour * 60 + t.stopMin

/-- Both are times of the day, 0:00 to 23:59. -/
def OfDay (t : Times) : Prop :=
  ((0 ≤ t.startHour ∧ t.startHour ≤ 23) ∧ 0 ≤ t.startMin ∧ t.startMin ≤ 59) ∧
    (0 ≤ t.stopHour ∧ t.stopHour ≤ 23) ∧ 0 ≤ t.stopMin ∧ t.stopMin ≤ 59

instance (t : Times) : Decidable t.OfDay := inferInstanceAs (Decidable (_ ∧ _))

end Times

/-! ## The formset -/

/-- A `forms.IntegerField` with its bounds. -/
structure IntegerField where
  maxValue : ℤ
  minValue : ℤ
  deriving DecidableEq, Repr

/-- The bounds of the field hold of the value. -/
def IntegerField.accepts (field : IntegerField) (value : ℤ) : Bool :=
  field.minValue ≤ value ∧ value ≤ field.maxValue

namespace CicleForm

def startHour : IntegerField := ⟨24, 0⟩
def startMin : IntegerField := ⟨60, 0⟩
def stopHour : IntegerField := ⟨24, 0⟩
def stopMin : IntegerField := ⟨60, 0⟩

/-- The names of the fields of a form that are in error. -/
def errors (form : Times) : List String :=
  (if startHour.accepts form.startHour then [] else ["start_hour"]) ++
    (if startMin.accepts form.startMin then [] else ["start_min"]) ++
    (if stopHour.accepts form.stopHour then [] else ["stop_hour"]) ++
    (if stopMin.accepts form.stopMin then [] else ["stop_min"])

end CicleForm

/-- `forms.ValidationError`. -/
structure ValidationError where
  message : String
  code : String
  deriving DecidableEq, Repr

namespace BaseCicleFormSet

/-- The body of the loop of `clean`.  Where it is reached no field is in error, and `cleaned_data`
holds the four integers. -/
def cleanForm (form : Times) : Except ValidationError Unit :=
  if form.startHour = 0 ∨ form.startMin = 0 ∨ form.stopHour = 0 ∨ form.stopMin = 0 then
    .error ⟨"All links must have an anchor.", "missing_anchor"⟩
  else if form.startHour > 23 ∨ form.startHour < 0 then
    .error ⟨"Invalid start hour.", "inv_s_hour"⟩
  else if form.startMin > 59 ∨ form.startMin < 0 then
    .error ⟨"Invalid start min.", "inv_s_min"⟩
  else if form.stopHour > 23 ∨ form.stopHour < 0 then
    .error ⟨"Invalid stop hour.", "inv_hour"⟩
  else if form.stopMin > 23 ∨ form.stopMin < 0 then
    .error ⟨"Invalid stop min.", "inv_min"⟩
  else .ok ()

/-- The loop of `clean`: the first `raise` ends it. -/
def cleanForms : List Times → Except ValidationError Unit
  | [] => .ok ()
  | form :: forms =>
    match cleanForm form with
    | .error e => .error e
    | .ok () => cleanForms forms

/-- `BaseCicleFormSet.clean`. -/
def clean (forms : List Times) : Except ValidationError Unit :=
  if forms.any fun form => CicleForm.errors form ≠ [] then .ok () else cleanForms forms

/-- The whole validation of a formset: no field is in error, and `clean` raises no error. -/
def isValid (forms : List Times) : Bool :=
  forms.all (fun form => CicleForm.errors form = []) && clean forms matches .ok ()

end BaseCicleFormSet

/-- No value is zero, and the stop minute is at most 23. -/
def Times.Anchored (t : Times) : Prop :=
  t.startHour ≠ 0 ∧ t.startMin ≠ 0 ∧ t.stopHour ≠ 0 ∧ t.stopMin ≠ 0 ∧ t.stopMin ≤ 23

instance (t : Times) : Decidable t.Anchored := inferInstanceAs (Decidable (_ ∧ _))

namespace BaseCicleFormSet

theorem errors_eq_nil_iff (form : Times) :
    CicleForm.errors form = [] ↔
      (0 ≤ form.startHour ∧ form.startHour ≤ 24) ∧ (0 ≤ form.startMin ∧ form.startMin ≤ 60) ∧
        (0 ≤ form.stopHour ∧ form.stopHour ≤ 24) ∧ 0 ≤ form.stopMin ∧ form.stopMin ≤ 60 := by
  have hfield (field : IntegerField) (value : ℤ) (name : String) :
      (if field.accepts value then [] else [name]) = [] ↔
        field.minValue ≤ value ∧ value ≤ field.maxValue := by
    rw [← decide_eq_true_iff (p := field.minValue ≤ value ∧ value ≤ field.maxValue)]
    show _ ↔ field.accepts value = true
    cases field.accepts value <;> simp
  simp only [CicleForm.errors, List.append_eq_nil_iff, hfield, and_assoc]
  rfl

/-- The loop body lets a form pass exactly when it is a time of the day with no zero in it and a
stop minute of at most 23. -/
theorem cleanForm_eq_ok_iff (form : Times) :
    cleanForm form = .ok () ↔ form.OfDay ∧ form.Anchored := by
  unfold cleanForm Times.OfDay Times.Anchored
  split_ifs with h0 h1 h2 h3 h4
  all_goals simp only [false_iff, true_iff]
  all_goals omega

theorem cleanForms_eq_ok_iff (forms : List Times) :
    cleanForms forms = .ok () ↔ ∀ form ∈ forms, form.OfDay ∧ form.Anchored := by
  induction forms with
  | nil => simp [cleanForms]
  | cons form forms ih =>
    rw [List.forall_mem_cons, ← cleanForm_eq_ok_iff, ← ih, cleanForms]
    cases cleanForm form <;> simp

theorem errors_eq_nil_of_ofDay {form : Times} (h : form.OfDay) : CicleForm.errors form = [] := by
  rw [errors_eq_nil_iff]
  unfold Times.OfDay at h
  omega

/-- `clean` raises no error where a field is in error, or where the loop lets every form pass. -/
theorem clean_eq_ok_iff (forms : List Times) :
    clean forms = .ok () ↔
      (∃ form ∈ forms, CicleForm.errors form ≠ []) ∨
        ∀ form ∈ forms, form.OfDay ∧ form.Anchored := by
  have hany : (forms.any fun form => CicleForm.errors form ≠ []) = true ↔
      ∃ form ∈ forms, CicleForm.errors form ≠ [] := by
    rw [List.any_eq_true]
    simp only [decide_eq_true_eq]
  unfold clean
  by_cases h : ∃ form ∈ forms, CicleForm.errors form ≠ []
  · rw [if_pos (hany.2 h)]
    exact iff_of_true rfl (Or.inl h)
  · rw [if_neg (fun hb => h (hany.1 hb)), cleanForms_eq_ok_iff, or_iff_right h]

theorem isValid_iff (forms : List Times) :
    isValid forms ↔ ∀ form ∈ forms, form.OfDay ∧ form.Anchored := by
  unfold isValid
  rw [Bool.and_eq_true, List.all_eq_true]
  simp only [decide_eq_true_eq]
  have hclean : (clean forms matches .ok ()) = true ↔ clean forms = .ok () := by
    cases clean forms <;> simp
  rw [hclean, clean_eq_ok_iff]
  constructor
  · rintro ⟨herrors, ⟨form, hform, hne⟩ | h⟩
    · exact absurd (herrors form hform) hne
    · exact h
  · intro h
    exact ⟨fun form hform => errors_eq_nil_of_ofDay (h form hform).1, Or.inr h⟩

end BaseCicleFormSet

/-! ## The view -/

/-- The request names a valve that exists and gives a description and these four integers. -/
structure Gives (int : String → Option ℤ) (form : CreateForm) (db : Db) (t : Times) : Prop where
  valve : ∃ v, form.valveidF.bind int = some v ∧ ∃ x ∈ db.valve.rows, x.valveID = v
  description : (str form.description).isSome
  startH : form.startH.bind int = some t.startHour
  startM : form.startM.bind int = some t.startMin
  stopH : form.stopH.bind int = some t.stopHour
  stopM : form.stopM.bind int = some t.stopMin

/-- The view gets to its insertion exactly when the combined minutes are in range, and inserts
them. -/
theorem createNewSchedule_of_gives {int : String → Option ℤ} {form : CreateForm} {db : Db}
    {t : Times} (h : Gives int form db t) :
    ∃ v d, form.valveidF.bind int = some v ∧ str form.description = some d ∧
      createNewSchedule int form db =
      if t.startTime ≥ 0 ∧ t.startTime ≤ 1440 ∧ t.stopTime ≥ 0 ∧ t.stopTime ≤ 1440 then
        some ⟨v, d, t.startTime, t.stopTime⟩
      else none := by
  obtain ⟨v, hv, x, hx, hid⟩ := h.valve
  obtain ⟨d, hd⟩ := Option.isSome_iff_exists.1 h.description
  have hvalve : db.valve.rows.any (fun x => x.valveID = v) = true :=
    List.any_eq_true.2 ⟨x, hx, decide_eq_true hid⟩
  refine ⟨v, d, hv, hd, ?_⟩
  simp only [createNewSchedule, Option.bind_eq_bind, hv, hd, h.startH, h.startM, h.stopH, h.stopM,
    Option.bind_some, hvalve, if_true]
  rfl

theorem createNewSchedule_isSome_iff {int : String → Option ℤ} {form : CreateForm} {db : Db}
    {t : Times} (h : Gives int form db t) :
    (createNewSchedule int form db).isSome ↔
      (0 ≤ t.startTime ∧ t.startTime ≤ 1440) ∧ 0 ≤ t.stopTime ∧ t.stopTime ≤ 1440 := by
  obtain ⟨v, d, -, -, hview⟩ := createNewSchedule_of_gives h
  rw [hview]
  split_ifs with hin
  · exact iff_of_true rfl ⟨⟨hin.1, hin.2.1⟩, hin.2.2⟩
  · exact iff_of_false Bool.false_ne_true fun h => hin ⟨h.1.1, h.1.2, h.2⟩

/-- The view executes its query, and the query inserts exactly one row, with what the view has
read. -/
def Inserts (other : List Char → Db → Db) (now : Timestamp) (int : String → Option ℤ)
    (form : CreateForm) (db : Db) : Prop :=
  ∃ c, createNewSchedule int form db = some c ∧ InsertsOne other now db c c.description

/-- The valve and the description of a request make a row that the table takes, and the description
stays data in the query. -/
def Insertable (int : String → Option ℤ) (form : CreateForm) (db : Db) : Prop :=
  ∀ v ∈ form.valveidF.bind int, ∀ d ∈ str form.description,
    ('\'' ∉ d.toList ∧ '\x00' ∉ d.toList) ∧ Fits db v d

/-- Where nothing but the times is in question, the row is inserted as soon as the query is
executed. -/
theorem inserts_iff {int : String → Option ℤ} {form : CreateForm} {db : Db} {t : Times}
    (h : Gives int form db t) (hrow : Insertable int form db) (other : List Char → Db → Db)
    (now : Timestamp) :
    Inserts other now int form db ↔ (createNewSchedule int form db).isSome := by
  rw [Option.isSome_iff_exists]
  refine exists_congr fun c => and_iff_left_of_imp fun hc => ?_
  obtain ⟨v, d, hv, hd, hview⟩ := createNewSchedule_of_gives h
  rw [hview] at hc
  split_ifs at hc with hin
  obtain rfl := Option.some.inj hc
  obtain ⟨⟨hquote, hnul⟩, hfits⟩ := hrow v hv d hd
  exact (insertsOne_iff other now (hview.trans (if_pos hin)) hquote hnul).2 hfits

theorem Times.OfDay.inRange {t : Times} (h : t.OfDay) :
    (0 ≤ t.startTime ∧ t.startTime ≤ 1440) ∧ 0 ≤ t.stopTime ∧ t.stopTime ≤ 1440 := by
  unfold Times.OfDay at h
  unfold Times.startTime Times.stopTime
  omega

/-- Where the two validators take exactly the times of the day.  `clean`: no field is in error, and
some form is no time of the day or none has a zero in it or a stop minute beyond 23; the same
without the first condition for the formset as a whole.  `create_new_schedule`: the four integers
are times of the day, or one of the combined minutes is out of range; so it is for getting to the
query, and for the row where nothing but the times is in question. -/
theorem validators_agree_iff (forms : List Times) {int : String → Option ℤ} {form : CreateForm}
    {db : Db} {t : Times} (h : Gives int form db t) :
    ((BaseCicleFormSet.clean forms = .ok () ↔ ∀ f ∈ forms, f.OfDay) ↔
      (∀ f ∈ forms, CicleForm.errors f = []) ∧
        ((∃ f ∈ forms, ¬ f.OfDay) ∨ ∀ f ∈ forms, f.Anchored)) ∧
    ((BaseCicleFormSet.isValid forms ↔ ∀ f ∈ forms, f.OfDay) ↔
      (∃ f ∈ forms, ¬ f.OfDay) ∨ ∀ f ∈ forms, f.Anchored) ∧
    (((createNewSchedule int form db).isSome ↔ t.OfDay) ↔
      t.OfDay ∨ ¬ ((0 ≤ t.startTime ∧ t.startTime ≤ 1440) ∧
        0 ≤ t.stopTime ∧ t.stopTime ≤ 1440)) ∧
    (Insertable int form db → ∀ other now,
      ((Inserts other now int form db ↔ t.OfDay) ↔
        t.OfDay ∨ ¬ ((0 ≤ t.startTime ∧ t.startTime ≤ 1440) ∧
          0 ≤ t.stopTime ∧ t.stopTime ≤ 1440))) := by
  -- Where the loop decides, it refuses too much unless the condition holds.
  have hloop : ((∀ f ∈ forms, f.OfDay ∧ f.Anchored) ↔ ∀ f ∈ forms, f.OfDay) ↔
      (∃ f ∈ forms, ¬ f.OfDay) ∨ ∀ f ∈ forms, f.Anchored := by
    have hnot : (∃ f ∈ forms, ¬ f.OfDay) ↔ ¬ ∀ f ∈ forms, f.OfDay := by
      simp only [not_forall, exists_prop]
    rw [forall₂_and, and_iff_left_iff_imp, imp_iff_not_or, hnot]
  have hview : ((createNewSchedule int form db).isSome ↔ t.OfDay) ↔
      t.OfDay ∨ ¬ ((0 ≤ t.startTime ∧ t.startTime ≤ 1440) ∧
        0 ≤ t.stopTime ∧ t.stopTime ≤ 1440) := by
    rw [createNewSchedule_isSome_iff h]
    by_cases hin : (0 ≤ t.startTime ∧ t.startTime ≤ 1440) ∧ 0 ≤ t.stopTime ∧ t.stopTime ≤ 1440
    · rw [iff_true_left hin, or_iff_left (not_not_intro hin)]
    · exact iff_of_true (iff_of_false hin fun hday => hin hday.inRange) (Or.inr hin)
  refine ⟨?_, ?_, hview, fun hrow other now => ?_⟩
  · rw [BaseCicleFormSet.clean_eq_ok_iff, ← hloop]
    by_cases herrors : ∀ f ∈ forms, CicleForm.errors f = []
    · have hnone : ¬ ∃ f ∈ forms, CicleForm.errors f ≠ [] :=
        fun ⟨f, hf, hne⟩ => hne (herrors f hf)
      rw [or_iff_right hnone, and_iff_right herrors]
    · -- A field in error makes `clean` return without raising, and is no time of the day.
      have hsome : ∃ f ∈ forms, CicleForm.errors f ≠ [] := by
        simpa only [not_forall, exists_prop] using herrors
      refine iff_of_false (fun hagree => herrors fun f hf => ?_) fun hcond => herrors hcond.1
      exact BaseCicleFormSet.errors_eq_nil_of_ofDay (hagree.1 (Or.inl hsome) f hf)
  · rw [BaseCicleFormSet.isValid_iff]
    exact hloop
  · rw [inserts_iff h hrow]
    exact hview

/-- The request for a schedule of the garden from 8:10 to 9:20. -/
def morningForm : CreateForm :=
  ⟨some "1", some "morning", some "8", some "10", some "9", some "20"⟩

theorem gives_morningForm : Gives intOfDigits morningForm Db.garden ⟨8, 10, 9, 20⟩ where
  valve := ⟨1, by decide, ⟨1, none, 1⟩, by decide, rfl⟩
  description := by decide
  startH := by decide
  startM := by decide
  stopH := by decide
  stopM := by decide

theorem insertable_morningForm : Insertable intOfDigits morningForm Db.garden := by
  intro v hv d hd
  obtain rfl : 1 = v := Option.some.inj hv
  obtain rfl : "morning" = d := Option.some.inj hd
  decide

/-- On the morning both validators take the times, and agree. -/
theorem validators_agree_iff_morning :
    (BaseCicleFormSet.clean [⟨8, 10, 9, 20⟩] = .ok () ↔
      ∀ f ∈ ([⟨8, 10, 9, 20⟩] : List Times), f.OfDay) ∧
    ((createNewSchedule intOfDigits morningForm Db.garden).isSome ↔
      (⟨8, 10, 9, 20⟩ : Times).OfDay) ∧
    (Inserts (fun _ db => db) 0 intOfDigits morningForm Db.garden ↔
      (⟨8, 10, 9, 20⟩ : Times).OfDay) :=
  have hagree := validators_agree_iff [⟨8, 10, 9, 20⟩] gives_morningForm
  ⟨hagree.1.2 ⟨by decide, Or.inr (by decide)⟩, hagree.2.2.1.2 (Or.inl (by decide)),
    (hagree.2.2.2 insertable_morningForm _ 0).2 (Or.inl (by decide))⟩

/-- The request for a schedule from 0:00 to "0:1440". -/
def wholeDayForm : CreateForm :=
  ⟨some "1", some "day", some "0", some "0", some "0", some "1440"⟩

/-- `clean` refuses 8:10 to 9:45 for its stop minute and 8:00 to 9:20 for its zero, and
`create_new_schedule` takes a stop at 0:1440. -/
theorem not_validators_agree :
    (BaseCicleFormSet.clean [⟨8, 10, 9, 45⟩] = .error ⟨"Invalid stop min.", "inv_min"⟩ ∧
      (⟨8, 10, 9, 45⟩ : Times).OfDay) ∧
    (BaseCicleFormSet.clean [⟨8, 0, 9, 20⟩] =
        .error ⟨"All links must have an anchor.", "missing_anchor"⟩ ∧
      (⟨8, 0, 9, 20⟩ : Times).OfDay) ∧
    Gives intOfDigits wholeDayForm Db.garden ⟨0, 0, 0, 1440⟩ ∧
      (createNewSchedule intOfDigits wholeDayForm Db.garden).isSome ∧
      ¬ (⟨0, 0, 0, 1440⟩ : Times).OfDay := by
  have hgives : Gives intOfDigits wholeDayForm Db.garden ⟨0, 0, 0, 1440⟩ :=
    ⟨⟨1, by decide, ⟨1, none, 1⟩, by decide, rfl⟩, by decide, by decide, by decide, by decide,
      by decide⟩
  exact ⟨by decide, by decide, hgives, (createNewSchedule_isSome_iff hgives).2 (by decide),
    by decide⟩

end Bbd.Web
